import SearchAppliance.Proofs.Index.Arrangement
import SearchAppliance.Proofs.Index.Window
import SearchAppliance.Proofs.Text.Cut

namespace SearchAppliance

theorem SortClause.parse_append {field direction : Text} (h : .char ' ' ∉ field.toList) :
    SortClause.parse (field ++ " " ++ direction) = ⟨field, direction = "desc"⟩ := by
  have hcs : (field ++ " " ++ direction).toList = field.toList ++ .char ' ' :: direction.toList := by
    simp
  have hiff : direction.toList = ("desc" : Text).toList ↔ direction = "desc" := Text.toList_inj
  obtain ⟨ht, hd⟩ := Text.takeWhile_append h (.char ' ' :: direction.toList)
  unfold parse
  simp only [hcs, ht, hd]
  simp [← hiff]

theorem SortClause.parse_field {field : Text} (h : .char ' ' ∉ field.toList) :
    SortClause.parse field = ⟨field, false⟩ := by
  obtain ⟨ht, hd⟩ := Text.takeWhile_append h []
  rw [List.append_nil] at ht hd
  unfold parse
  simp only [ht, hd]
  simp

namespace Match

/-- Is it the one arrangement by ascending keys? -/
def IsArrangement (key : Match → Int) (found ranked : List Match) : Prop :=
  ∀ other, Ascending key found other ↔ other = ranked

theorem Ascending.isArrangement {key : Match → Int} {found ranked : List Match}
    (h : Ascending key found ranked) : IsArrangement key found ranked := by
  intro other
  constructor
  · intro ho
    exact ho.unique h
  · rintro rfl
    exact h

theorem arrangement_byRelevance {found ranked : List Match} {sort : Option Text}
    (hp : found.Pairwise fun a b => a.position < b.position) (hs : sort = none ∨ sort = some "")
    (h : arrangement sort found = .ok ranked) :
    Ascending (fun m => -(m.score : Int)) found ranked := by
  have hr : byRelevance found = ranked := by
    rcases hs with rfl | rfl <;> exact Except.ok.inj h
  exact hr ▸ byRelevance_ascending found hp

theorem arrangement_byField {found ranked : List Match} {clause : Text}
    (hp : found.Pairwise fun a b => a.position < b.position) (hc : clause ≠ "")
    (h : arrangement (some clause) found = .ok ranked) :
    Ascending (fun m => m.fields.number (SortClause.parse clause).field) found
      (if (SortClause.parse clause).descending then ranked.reverse else ranked) := by
  rw [arrangement, Option.filter_some_pos (by simpa using hc)] at h
  exact byField_ascending hp h

/-- A sort expression decides on a key and a direction, whatever it is that is sorted. -/
theorem arrangement_ascending (sort : Option Text) :
    ∃ (key : Match → Int) (descending : Bool), ∀ found ranked,
      found.Pairwise (fun a b => a.position < b.position) →
      arrangement sort found = .ok ranked →
      Ascending key found (if descending then ranked.reverse else ranked) := by
  by_cases hs : sort = none ∨ sort = some ""
  · exact ⟨_, false, fun found ranked hp h => arrangement_byRelevance hp hs h⟩
  · obtain ⟨clause, rfl⟩ := Option.ne_none_iff_exists'.mp fun hn => hs (Or.inl hn)
    have hc : clause ≠ "" := fun hc => hs (Or.inr (hc ▸ rfl))
    exact ⟨_, (SortClause.parse clause).descending, fun found ranked hp h =>
      arrangement_byField hp hc h⟩

theorem arrangement_perm {found ranked : List Match} {sort : Option Text}
    (hp : found.Pairwise fun a b => a.position < b.position)
    (h : arrangement sort found = .ok ranked) : ranked.Perm found := by
  obtain ⟨key, descending, hall⟩ := arrangement_ascending sort
  have ha := (hall found ranked hp h).perm
  cases descending with
  | false => exact ha
  | true => exact ranked.reverse_perm.symm.trans ha

end Match

namespace Index

theorem ranking_perm {index : Index} {query : Text} {sort : Option Text}
    {ranked : List Match} (h : index.ranking query sort = .ok ranked) :
    ranked.Perm (index.answers (Query.terms query)) := by
  rw [ranking, matching_eq_answers] at h
  exact Match.arrangement_perm (index.answers_positions _) h

theorem ranking_ids_nodup {index : Index} {query : Text} {sort : Option Text}
    {ranked : List Match} (hs : index.Sound) (h : index.ranking query sort = .ok ranked) :
    (ranked.map (·.id)).Nodup :=
  ((ranking_perm h).map (·.id)).symm.nodup (answers_ids_nodup hs _)

theorem ranking_length {index : Index} {query : Text} {sort : Option Text}
    {ranked : List Match} (h : index.ranking query sort = .ok ranked) :
    ranked.length =
      index.documents.countP fun document => Query.Holds (Query.terms query) document.2 :=
  (ranking_perm h).length_eq.trans (index.answers_length _)

/-- A search answers unless it sorts by a field whose number cannot be read in one of the documents
found. -/
theorem search_isOk (index : Index) (request : Search) :
    (index.search request).isOk =
      match request.sort.filter (· ≠ ("" : Text)) with
      | none => true
      | some clause => (index.answers (Query.terms request.query)).all fun m =>
          (m.fields.sortKey (SortClause.parse clause).field).isOk := by
  have hcut : (index.search request).isOk = (index.ranking request.query request.sort).isOk := by
    unfold search
    cases index.ranking request.query request.sort <;> rfl
  rw [hcut, ranking, matching_eq_answers, Match.arrangement]
  cases request.sort.filter (· ≠ ("" : Text)) with
  | none => rfl
  | some clause => exact Match.byField_isOk _ _

/-- A search meets its reference: it counts the documents that hold every term and shows a window
of the one arrangement of them. By relevance that is strictly ascending in negated score and
position, by a field in its number and position, and for the direction `desc` the exact reverse. -/
theorem search_meets_reference (documents : List Fields) (request : Search)
    (result : SearchResult) (ho : 0 ≤ request.offset) (hr : 0 ≤ request.rows)
    (h : (ofDocuments documents).search request = .ok result) :
    let index := ofDocuments documents
    let found := index.answers (Query.terms request.query)
    ∃ ranked : List Match,
      (request.sort = none ∨ request.sort = some ("" : Text) →
        Match.IsArrangement (fun m => -(m.score : Int)) found ranked) ∧
      (∀ field direction : Text, .char ' ' ∉ field.toList →
        request.sort = some (field ++ " " ++ direction) →
        Match.IsArrangement (fun m => m.fields.number field) found
          (if direction = "desc" then ranked.reverse else ranked)) ∧
      (∀ field : Text, field ≠ "" → .char ' ' ∉ field.toList → request.sort = some field →
        Match.IsArrangement (fun m => m.fields.number field) found ranked) ∧
      (ranked.map (·.id)).Nodup ∧
      result.page.found = (index.documents.countP fun document =>
        Query.Holds (Query.terms request.query) document.2 : Nat) ∧
      (result.page.hits.length : Int) =
        Page.expectedSize request.offset request.rows result.page.found ∧
      result.page.hits = ((ranked.drop request.offset.toNat).take request.rows.toNat).map
        (fun m => m.fields.restrict request.fields) ∧
      (result.highlighting.map (·.1)).Sublist
        (((ranked.drop request.offset.toNat).take request.rows.toNat).map (·.id)) := by
  intro index found
  obtain ⟨ranked, hrank, rfl⟩ := search_eq_ok.mp h
  have hpos := index.answers_positions (Query.terms request.query)
  have harr : Match.arrangement request.sort found = .ok ranked := by
    rw [← hrank, ranking, matching_eq_answers]
  have hshown := Search.shown_eq ho hr ranked
  refine ⟨ranked, ?_, ?_, ?_, ?_, ?_, ?_, ?_, ?_⟩
  · intro hs
    exact (Match.arrangement_byRelevance hpos hs harr).isArrangement
  · intro field direction hf hs
    have hc : field ++ " " ++ direction ≠ "" := by simp [Text.eq_empty_iff]
    have ha := Match.arrangement_byField hpos hc (hs ▸ harr)
    rw [SortClause.parse_append hf] at ha
    simpa using ha.isArrangement
  · intro field hc hf hs
    have ha := Match.arrangement_byField hpos hc (hs ▸ harr)
    rw [SortClause.parse_field hf] at ha
    simpa using ha.isArrangement
  · exact ranking_ids_nodup (sound_ofDocuments documents) hrank
  · exact congrArg Nat.cast (ranking_length hrank)
  · exact Search.hits_length ho hr ranked
  · rw [← hshown]
    rfl
  · rw [← hshown]
    exact highlighting_ids_sublist _ _

/-- Three teas, one of them stored twice; two have the same date. -/
def teas : List Fields := [
  [("id", ["a"]), ("title", ["Tea"]), ("last_modified", ["1"])],
  [("id", ["b"]), ("title", ["Green tea"]), ("last_modified", ["5"])],
  [("id", ["c"]), ("title", ["tea tea"]), ("last_modified", ["7"])],
  [("id", ["a"]), ("title", ["Black tea"]), ("last_modified", ["5"])]]

/-- Downwards, of the two teas with the same date the later one comes first. -/
theorem search_teas_downwards :
    let request : Search := {
      query := "tea"
      offset := 1
      rows := 5
      sort := some "last_modified desc"
      fields := some ["id"] }
    0 ≤ request.offset ∧ 0 ≤ request.rows ∧
      ∃ result, (ofDocuments teas).search request = .ok result ∧ result.page.found = 3 ∧
        result.page.hits = ([[("id", ["b"])], [("id", ["a"])]] : List Fields) := by
  intro request
  refine ⟨by decide, by decide, ?_⟩
  have hok : ((ofDocuments teas).search request).isOk = true := by
    rw [search_isOk]
    decide
  obtain ⟨result, h⟩ := Outcome.isOk_iff.mp hok
  obtain ⟨ranked, -, harr, -, -, hfound, -, hhits, -⟩ :=
    search_meets_reference teas request result (by decide) (by decide) h
  refine ⟨result, h, hfound.trans (by decide), ?_⟩
  let found := (ofDocuments teas).answers (Query.terms "tea")
  have hup : Match.Ascending (fun m => m.fields.number "last_modified") found found :=
    ⟨List.Perm.refl _, by decide⟩
  have hr := (harr "last_modified" "desc" (by decide) rfl _).mp hup
  rw [if_pos rfl] at hr
  rw [hhits, ← ranked.reverse_reverse, ← hr]
  decide

end Index

end SearchAppliance
