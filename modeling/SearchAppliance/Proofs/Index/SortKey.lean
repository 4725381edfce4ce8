import SearchAppliance.Proofs.Result.ChangeDate

namespace SearchAppliance

open Settings (PageOptions)

namespace Number

/-- Does the text begin with a plus sign? -/
def PlusSigned (value : Text) : Prop := value.toList.head? = some '+'

instance (value : Text) : Decidable (PlusSigned value) :=
  inferInstanceAs (Decidable (value.toList.head? = some '+'))

/-- Without leave for a plus sign, none is read. -/
theorem ofList?_plus (cs : List CodePoint) : Numeral.ofList? (.char '+' :: cs) = none := by
  have hplus : Text.DecimalDigit.value? '+' = none := by decide
  have hdigits : Numeral.digits? (.char '+' :: cs) = none := by
    rw [Numeral.digits?, if_neg (by simp), List.mapM_cons, hplus]
    rfl
  rw [Numeral.ofList?, hdigits]
  · rfl
  · simp

theorem ofList?_of_plusSigned {value : Text} (h : PlusSigned value) :
    Numeral.ofList? value.toList = none := by
  obtain ⟨cs, hcs⟩ := List.head?_eq_some_iff.mp h
  rw [hcs, ofList?_plus]

/-- Any other text is read alike with and without that leave. -/
theorem ofSignedList?_of_not_plusSigned {value : Text} (h : ¬PlusSigned value) :
    Numeral.ofSignedList? value.toList = Numeral.ofList? value.toList := by
  unfold Numeral.ofSignedList?
  split
  · next cs hcs =>
    rw [PlusSigned, hcs] at h
    exact absurd rfl h
  · rfl

end Number

namespace Fields

variable {fields : Fields} {field value : Text}

theorem sortKey_of_empty (h : (fields.values field).head? = none) : fields.sortKey field = .ok 0 := by
  rw [sortKey, h]
  rfl

theorem sortKey_of_plusSigned (h : (fields.values field).head? = some value)
    (hp : Number.PlusSigned value) : fields.sortKey field = .ok 0 := by
  rw [sortKey, h, Option.bind_some, Number.ofList?_of_plusSigned hp]

theorem sortKey_of_read {n : Int} (h : (fields.values field).head? = some value)
    (hp : ¬Number.PlusSigned value) (hr : Number.readField field value = .ok n) :
    fields.sortKey field = .ok n := by
  rw [Number.readField, Number.ofSignedList?_of_not_plusSigned hp] at hr
  rw [sortKey, h, Option.bind_some]
  cases hn : Number.Numeral.ofList? value.toList with
  | none =>
    rw [hn] at hr
    cases hr
  | some numeral =>
    rw [hn] at hr
    exact hr

theorem sortKey_of_refused {cause : Failure} (h : (fields.values field).head? = some value)
    (hp : ¬Number.PlusSigned value) (hr : Number.readField field value = .error cause) :
    fields.sortKey field = if cause.isMalformedField then .ok 0 else .error cause := by
  rw [Number.readField, Number.ofSignedList?_of_not_plusSigned hp] at hr
  rw [sortKey, h, Option.bind_some]
  cases hn : Number.Numeral.ofList? value.toList with
  | none =>
    rw [hn] at hr
    rw [← Except.error.inj hr]
    rfl
  | some numeral =>
    rw [hn] at hr
    have hcause : cause.isMalformedField = false := by
      simp only [Number.Numeral.value] at hr
      split at hr
      · rw [← Except.error.inj hr]
        rfl
      · cases hr
    rw [hcause]
    exact hr

/-- What the number in a field is for sorting, by what it is in a result. -/
theorem sortKey_read_iff {n : Int} (h : (fields.values field).head? = some value)
    (hr : Number.readField field value = .ok n) :
    fields.sortKey field = .ok n ↔ (Number.PlusSigned value → n = 0) := by
  by_cases hp : Number.PlusSigned value
  · rw [sortKey_of_plusSigned h hp, Except.ok.injEq]
    exact ⟨fun hn _ => hn.symm, fun hn => (hn hp).symm⟩
  · exact ⟨fun _ hplus => absurd hplus hp, fun _ => sortKey_of_read h hp hr⟩

theorem sortKey_refused_iff {cause : Failure} (h : (fields.values field).head? = some value)
    (hr : Number.readField field value = .error cause) :
    (fields.sortKey field = .ok 0 ↔ (Number.Overlong value → Number.PlusSigned value)) ∧
      (Number.Overlong value → ¬Number.PlusSigned value → fields.sortKey field = .error cause) := by
  have hrefusal := Number.refusal_of_readField hr
  by_cases hp : Number.PlusSigned value
  · exact ⟨iff_of_true (sortKey_of_plusSigned h hp) fun _ => hp, fun _ hnot => absurd hp hnot⟩
  · rw [sortKey_of_refused h hp hr]
    by_cases hlong : Number.Overlong value
    · rw [hrefusal.overlong hlong]
      exact ⟨iff_of_false (by simp) fun hplus => hp (hplus hlong), fun _ _ => rfl⟩
    · rw [hrefusal.unusable hlong]
      exact ⟨iff_of_true rfl fun hover => absurd hover hlong, fun hover => absurd hover hlong⟩

theorem sortKey_nines {digits : Nat} (h : Number.digitLimit < digits)
    (hv : (fields.values field).head? = some (Text.ofList (List.replicate digits '9'))) :
    fields.sortKey field = .error (.numeralTooLong digits) := by
  have hread := (Number.read_nines (Nat.ne_zero_of_lt h)).1
  rw [sortKey, hv, Option.bind_some, Text.toList_ofList, hread]
  simp [Number.Numeral.value, h]

end Fields

/-- Is the first date of last change of a hit one that is shown, and without a sign that sorting does
not read? -/
def Fields.Dated (hit : Fields) : Prop :=
  ∃ value, (hit.values Field.lastModified.name).head? = some value ∧
    (Calendar.readDate Field.lastModified.name value).isOk = true ∧
    (Number.PlusSigned value → Number.readField Field.lastModified.name value = .ok 0)

/-- What a dated hit is sorted by is what it shows. -/
theorem Fields.Dated.shownSecond? {hit : Fields} (h : hit.Dated) (hd : hit.Distinct)
    {options : PageOptions} {d : Digest} (hdigest : (Digest.ofFields options hit).outcome = .ok d) :
    d.shownSecond? = some ((hit.number Field.lastModified.name).fdiv 1000) := by
  obtain ⟨value, hvalue, hdate, hsign⟩ := h
  obtain ⟨text, htext⟩ := Outcome.isOk_iff.mp hdate
  obtain ⟨n, hread, hinstant⟩ := Outcome.bind_eq_ok.mp htext
  have hsame : Calendar.instantText n = .ok text := by
    split at hinstant
    · next shown hshown => rw [hshown, Except.ok.inj hinstant]
    · cases hinstant
  have hkey : hit.sortKey Field.lastModified.name = .ok n := by
    rw [sortKey_read_iff hvalue hread]
    intro hp
    rw [hsign hp] at hread
    exact (Except.ok.inj hread).symm
  obtain ⟨rest, hrest⟩ := List.head?_eq_some_iff.mp hvalue
  have hshown : Digest.dateOf? (Field.lastModified.name, value) = some text := by
    rw [Digest.dateOf?, htext]
    rfl
  have hfirst : d.changeDates.head? = some (text : Text) := by
    rw [Digest.ofFields_changeDates hd hdigest, hrest, List.filterMap_cons, hshown]
    rfl
  rw [Digest.shownSecond?, hfirst, Option.bind_some, Text.string?_ofString, Option.bind_some,
    Calendar.secondOf?_instantText hsame,
    sortKey_ok hkey]

namespace Index

/-- Hits that are sorted by a field have its numbers in that order. -/
theorem search_numbers {documents : List Fields} {request : Search} {result : SearchResult}
    {clause : Text} (hc : clause ≠ "") (hs : request.sort = some clause)
    (hk : ∀ names, request.fields = some names → (SortClause.parse clause).field ∈ names)
    (h : (ofDocuments documents).search request = .ok result) :
    result.page.hits.Pairwise fun before after =>
      if (SortClause.parse clause).descending then
        after.number (SortClause.parse clause).field ≤ before.number (SortClause.parse clause).field
      else
        before.number (SortClause.parse clause).field ≤
          after.number (SortClause.parse clause).field := by
  obtain ⟨ranked, hrank, rfl⟩ := search_eq_ok.mp h
  have harrange : Match.arrangement (some clause)
      ((ofDocuments documents).answers (Query.terms request.query)) = .ok ranked := by
    rw [← hrank, ranking, matching_eq_answers, hs]
  have hascending := Match.arrangement_byField (answers_positions _ _) hc harrange
  have hpairs := (Match.pairwise_of_ascending hascending).sublist (shown_sublist request ranked)
  refine List.pairwise_map.mpr (hpairs.imp ?_)
  intro a b hab
  simpa only [Fields.number, Fields.values_restrict hk] using hab

/-- Where the sort keys are read, the arrangement that is ascending by a field is the ranking. -/
theorem ranking_of_ascending {index : Index} {query clause : Text} {arranged : List Match}
    (hc : clause ≠ "")
    (hk : (index.answers (Query.terms query)).all fun m =>
      (m.fields.sortKey (SortClause.parse clause).field).isOk)
    (h : Match.Ascending (·.fields.number (SortClause.parse clause).field)
      (index.answers (Query.terms query)) arranged) :
    index.ranking query (some clause) =
      .ok (if (SortClause.parse clause).descending then arranged.reverse else arranged) := by
  have hkeys : (Match.arrangement (some clause)
      (index.answers (Query.terms query))).isOk = true := by
    rw [Match.arrangement, Option.filter_some_pos (by simpa using hc)]
    exact (Match.byField_isOk _ _).trans hk
  obtain ⟨ranked, harrange⟩ := Outcome.isOk_iff.mp hkeys
  have hascending := Match.arrangement_byField (index.answers_positions _) hc harrange
  rw [ranking, matching_eq_answers, harrange, ← hascending.unique h]
  by_cases hd : (SortClause.parse clause).descending <;> simp [hd]

/-- The number that a field is sorted by is the one that is shown, but for a plus sign, and for numerals
with too many digits, which fail. -/
theorem search_sorted_by_shown (fields : Fields) (field : Text) :
    ((fields.values field).head? = none → fields.sortKey field = .ok 0) ∧
      (∀ value, (fields.values field).head? = some value →
        (∀ n, Number.readField field value = .ok n →
          (fields.sortKey field = .ok n ↔ (Number.PlusSigned value → n = 0)) ∧
            (Number.PlusSigned value → fields.sortKey field = .ok 0)) ∧
        (∀ cause, Number.readField field value = .error cause →
          (fields.sortKey field = .ok 0 ↔ (Number.Overlong value → Number.PlusSigned value)) ∧
            (Number.Overlong value → ¬Number.PlusSigned value →
              fields.sortKey field = .error cause))) ∧
      (∀ (documents : List Fields) (request : Search) (result : SearchResult) (clause : Text),
        (∀ document ∈ documents, document.Distinct) →
        request.sort = some clause → (SortClause.parse clause).field = Field.lastModified.name →
        (∀ names, request.fields = some names → (Field.lastModified.name : Text) ∈ names) →
        (ofDocuments documents).search request = .ok result →
        result.page.hits.Pairwise fun before after => before.Dated → after.Dated →
          ∀ options first second, (Digest.ofFields options before).outcome = .ok first →
            (Digest.ofFields options after).outcome = .ok second →
            ∃ s t, first.shownSecond? = some s ∧ second.shownSecond? = some t ∧
              if (SortClause.parse clause).descending then t ≤ s else s ≤ t) := by
  refine ⟨Fields.sortKey_of_empty, ?_, ?_⟩
  · intro value hvalue
    exact ⟨fun n hr => ⟨Fields.sortKey_read_iff hvalue hr, Fields.sortKey_of_plusSigned hvalue⟩,
      fun cause hr => Fields.sortKey_refused_iff hvalue hr⟩
  · intro documents request result clause hd hs hfield hk h
    have hdistinct := search_hits_distinct hd h
    have hc : clause ≠ "" := by
      rintro rfl
      exact absurd hfield (by decide)
    have hnumbers := search_numbers hc hs (hfield ▸ hk) h
    rw [hfield] at hnumbers
    refine hnumbers.imp_of_mem ?_
    intro before after hb ha hle hbefore hafter options first second hfirst hsecond
    refine ⟨_, _, hbefore.shownSecond? (hdistinct _ hb) hfirst,
      hafter.shownSecond? (hdistinct _ ha) hsecond, ?_⟩
    split at hle
    · next hdesc =>
      rw [if_pos hdesc]
      exact Calendar.second_mono hle
    · next hasc =>
      rw [if_neg hasc]
      exact Calendar.second_mono hle

/-- Downwards, a date after 1970 comes before one that lies before 1970. -/
theorem search_later_first :
    let early : Fields := [("id", ["a"]), ("last_modified", ["-1"])]
    let late : Fields := [("id", ["b"]), ("last_modified", ["2000", "+7"])]
    let request : Search := { query := "", sort := some "last_modified desc" }
    late.sortKey "last_modified" = .ok 2000 ∧
      ∃ result, (ofDocuments [early, late]).search request = .ok result ∧
        result.page.hits = [late, early] ∧
        ∃ first second, (Digest.ofFields {} late).outcome = .ok first ∧
          (Digest.ofFields {} early).outcome = .ok second ∧
          ∃ s t, first.shownSecond? = some s ∧ second.shownSecond? = some t ∧ t ≤ s := by
  intro early late request
  let found := (ofDocuments [early, late]).answers (Query.terms "")
  have hascending : Match.Ascending (·.fields.number "last_modified") found found :=
    ⟨List.Perm.refl _, by decide⟩
  have hrank :
      (ofDocuments [early, late]).ranking "" (some "last_modified desc") = .ok found.reverse :=
    ranking_of_ascending (by decide) (by decide) hascending
  have h : (ofDocuments [early, late]).search request = .ok _ :=
    search_eq_ok.mpr ⟨found.reverse, hrank, rfl⟩
  have hhits : (request.resultOf found.reverse).page.hits = [late, early] := by decide
  have hd : ∀ document ∈ [early, late], document.Distinct := by decide
  have hlate : late.Dated := ⟨"2000", rfl, by decide, by decide⟩
  have hearly : early.Dated := ⟨"-1", rfl, by decide, by decide⟩
  obtain ⟨-, hkey, hsorted⟩ := search_sorted_by_shown late "last_modified"
  have hpairs := hsorted _ request _ "last_modified desc" hd rfl rfl (by simp [request]) h
  rw [hhits] at hpairs
  refine ⟨((hkey "2000" rfl).1 2000 rfl).1.mpr (by decide), _, h, hhits, _, _, rfl, rfl, ?_⟩
  exact List.rel_of_pairwise_cons hpairs List.mem_cons_self hlate hearly {} _ _ rfl rfl

/-- A date with a plus sign is read for the result and counts as zero for sorting, so that the later
date comes first. A numeral of 4301 digits does not count as zero. -/
theorem search_plus_sign :
    let plus : Fields := [("id", ["a"]), ("last_modified", ["+2000"])]
    let plain : Fields := [("id", ["b"]), ("last_modified", ["1000"])]
    let long : Fields :=
      [("id", ["c"]), ("last_modified", [Text.ofList (List.replicate 4301 '9')])]
    let request : Search := { query := "", sort := some "last_modified asc" }
    Number.readField "last_modified" "+2000" = .ok 2000 ∧
      plus.sortKey "last_modified" = .ok 0 ∧
      (∃ result, (ofDocuments [plus, plain]).search request = .ok result ∧
        result.page.hits = [plus, plain] ∧
        ∃ first second, (Digest.ofFields {} plus).outcome = .ok first ∧
          (Digest.ofFields {} plain).outcome = .ok second ∧
          first.shownSecond? = some 2 ∧ second.shownSecond? = some 1) ∧
      long.sortKey "last_modified" = .error (.numeralTooLong 4301) := by
  intro plus plain long request
  let found := (ofDocuments [plus, plain]).answers (Query.terms "")
  have hascending : Match.Ascending (·.fields.number "last_modified") found found :=
    ⟨List.Perm.refl _, by decide⟩
  have hrank : (ofDocuments [plus, plain]).ranking "" (some "last_modified asc") = .ok found :=
    ranking_of_ascending (by decide) (by decide) hascending
  refine ⟨rfl, rfl, ?_, Fields.sortKey_nines (by decide) rfl⟩
  exact ⟨_, search_eq_ok.mpr ⟨found, hrank, rfl⟩, by decide, _, _, rfl, rfl, by decide, by decide⟩

end Index

end SearchAppliance
