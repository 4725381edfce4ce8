import SearchAppliance.Proofs.Index.Reference
import SearchAppliance.Proofs.Result.Contribution

namespace SearchAppliance

open Settings (PageOptions)

namespace Fields

/-- Does no field occur twice? -/
def Distinct (fields : Fields) : Prop := (fields.map (·.1)).Nodup

instance (fields : Fields) : Decidable fields.Distinct := List.nodupDecidable _

/-- The marked fragments of a document, field by field. -/
def fragments (terms : List (List CodePoint)) (fields : Fields) : List Text :=
  (Marking.highlight terms fields).flatMap (·.2)

theorem Distinct.restrict {fields : Fields} (hd : fields.Distinct) (wanted : Option (List Text)) :
    (fields.restrict wanted).Distinct := by
  cases wanted with
  | none => exact hd
  | some names => exact hd.sublist (List.filter_sublist.map _)

/-- A projection does not change the fields that it keeps. -/
theorem values_restrict {fields : Fields} {wanted : Option (List Text)} {field : Text}
    (hk : ∀ names, wanted = some names → field ∈ names) :
    (fields.restrict wanted).values field = fields.values field := by
  cases wanted with
  | none => rfl
  | some names =>
    have hname : field ∈ names := hk names rfl
    have hfind : (fields.filter fun entry => names.contains entry.1).find? (·.1 = field) =
        fields.find? (·.1 = field) := by
      rw [List.find?_filter]
      congr 1
      funext entry
      by_cases he : entry.1 = field
      · simp [he, hname]
      · simp [he]
    simp only [values, restrict, Pairs.get?, hfind]

theorem entries_filter {fields : Fields} (hd : fields.Distinct) (field : Text) :
    fields.entries.filter (fun entry : Text × Text => entry.1 = field) =
      (fields.values field).map fun value => (field, value) := by
  induction fields with
  | nil => rfl
  | cons first rest ih =>
    obtain ⟨name, values⟩ := first
    obtain ⟨hfresh, hrest⟩ := List.nodup_cons.mp hd
    have hsplit : entries ((name, values) :: rest) = values.map (name, ·) ++ entries rest := rfl
    rw [hsplit, List.filter_append, ih hrest]
    by_cases hn : name = field
    · subst hn
      have hnone : Fields.values rest name = [] := by
        rw [Fields.values, Pairs.get?_eq_none.mpr hfresh]
        rfl
      have hown : Fields.values ((name, values) :: rest) name = values := by
        simp [Fields.values, Pairs.get?]
      rw [hnone, hown]
      simp
    · have hother : Fields.values ((name, values) :: rest) field = Fields.values rest field := by
        simp [Fields.values, Pairs.get?, hn]
      rw [hother]
      simp [hn]

end Fields

namespace Digest

variable {options : PageOptions} {fields : Fields} {d : Digest}

/-- The last value of a field of a hit. -/
theorem lastValue_entries (hd : fields.Distinct) (field : Field) :
    lastValue field fields.entries = (fields.values field.name).getLast? := by
  rw [lastValue, Fields.entries_filter hd, List.getLast?_map, Option.map_map]
  exact Option.map_id'

/-- A digest goes by the last identifier of its hit. -/
theorem ofFields_documentId (hd : fields.Distinct)
    (h : (ofFields options fields).outcome = .ok d) :
    d.documentId = (fields.values Field.identifier.name).getLast? :=
  (ofFields_knows h).documentId.trans (lastValue_entries hd .identifier)

/-- A digest has the last description of its hit. -/
theorem ofFields_description (hd : fields.Distinct)
    (h : (ofFields options fields).outcome = .ok d) :
    d.description = (fields.values Field.description.name).getLast?.getD "" := by
  rw [(ofFields_knows h).description, lastValue_entries hd]

theorem features_of_documentId {id : Text} (h : d.documentId = some id) :
    d.features = "<HAS><L/><C SZ=\"" ++ kilobyteText d.size ++ "\" CID=\"" ++ Text.Escape.attr id
      ++ "\" ENC=\"UTF-8\"/></HAS>" := by
  unfold features
  rw [h]
  rfl

end Digest

/-- The fragments that stand under an identifier. -/
def Snippets.candidates (snippets : Snippets) (id : Text) : List Text :=
  (Pairs.get? id snippets).getD []

theorem Digest.snippet_of_documentId {d : Digest} {id : Text} (h : d.documentId = some id)
    (snippets : Snippets) :
    d.snippet snippets = (snippets.candidates id).head?.getD d.description := by
  rw [snippet, h, Option.bind_some, Snippets.candidates]
  cases Pairs.get? id snippets <;> rfl

namespace Marking

theorem piecesFrom_nil (skip : Nat) (text : List CodePoint) :
    ∀ piece ∈ piecesFrom [] skip text, piece.marked = false := by
  induction text generalizing skip with
  | nil => simp [piecesFrom]
  | cons c cs ih =>
    cases skip with
    | succ skip => exact ih skip
    | zero =>
      intro piece hm
      have hm : piece ∈ extend c (piecesFrom [] 0 cs) := hm
      unfold extend at hm
      split at hm
      · next text rest hp =>
        rcases List.mem_cons.mp hm with rfl | hm
        · rfl
        · exact ih 0 piece (hp ▸ List.mem_cons_of_mem _ hm)
      · rcases List.mem_cons.mp hm with rfl | hm
        · rfl
        · exact ih 0 piece hm

/-- Without terms nothing is marked. -/
theorem highlight_nil (fields : Fields) : highlight [] fields = [] := by
  have hnone (value : Text) : fragment? [] value = none := by
    have hany : (pieces [] (value.toList.take fragmentLimit)).any (·.marked) = false := by
      rw [List.any_eq_false]
      intro piece hm
      simp [piecesFrom_nil 0 _ piece hm]
    rw [fragment?, hany]
    rfl
  rw [highlight, List.filter_eq_nil_iff]
  intro entry hm
  obtain ⟨field, -, rfl⟩ := List.mem_map.mp hm
  simp [hnone]

end Marking

namespace Index

variable {terms : List (List CodePoint)} {shown : List Match}

/-- Under the identifier of a shown document stands what is marked in it. -/
theorem get?_highlighting (hn : (shown.map (·.id)).Nodup) {m : Match} (hm : m ∈ shown) :
    (Pairs.get? m.id (highlighting terms shown)).getD [] = Marking.highlight terms m.fields := by
  cases terms with
  | nil =>
    rw [Marking.highlight_nil]
    rfl
  | cons term terms =>
    have hterms : (term :: terms).isEmpty = false := rfl
    rw [highlighting, hterms]
    apply Pairs.get?_filled
    · rw [List.map_map]
      exact hn
    · exact List.mem_map.mpr ⟨m, hm, rfl⟩

/-- Under an identifier stand the fragments that are marked under it, field by field. -/
theorem candidates_ofHighlighting (highlighting : Highlighting) (id : Text) :
    (Snippets.ofHighlighting highlighting).candidates id =
      ((Pairs.get? id highlighting).getD []).flatMap (·.2) := by
  rw [Snippets.candidates, Snippets.ofHighlighting, Pairs.get?_map]
  cases Pairs.get? id highlighting <;> rfl

/-- Under the identifier of a shown document stand its own fragments. -/
theorem candidates_shown (hn : (shown.map (·.id)).Nodup) {m : Match} (hm : m ∈ shown) :
    (Snippets.ofHighlighting (highlighting terms shown)).candidates m.id =
      m.fields.fragments terms := by
  rw [candidates_ofHighlighting, get?_highlighting hn hm]
  rfl

/-- Under any other identifier nothing stands. -/
theorem candidates_of_not_shown {id : Text} (h : id ∉ shown.map (·.id)) :
    (Snippets.ofHighlighting (highlighting terms shown)).candidates id = [] := by
  have hfresh : Pairs.get? id (highlighting terms shown) = none := by
    rw [Pairs.get?_eq_none]
    exact fun hid => h ((highlighting_ids_sublist terms shown).subset hid)
  rw [candidates_ofHighlighting, hfresh]
  rfl

/-- The snippet of a digest that goes by the identifier of a shown document. -/
theorem snippet_of_shown (hn : (shown.map (·.id)).Nodup) {owner : Match} (ho : owner ∈ shown)
    {d : Digest} (hid : d.documentId = some owner.id) :
    d.snippet (Snippets.ofHighlighting (highlighting terms shown)) =
      (owner.fields.fragments terms).head?.getD d.description := by
  rw [Digest.snippet_of_documentId hid, candidates_shown hn ho]

theorem snippet_of_not_shown {id : Text} (h : id ∉ shown.map (·.id)) {d : Digest}
    (hid : d.documentId = some id) :
    d.snippet (Snippets.ofHighlighting (highlighting terms shown)) = d.description := by
  rw [Digest.snippet_of_documentId hid, candidates_of_not_shown h]
  rfl

theorem mem_answers {index : Index} {m : Match} (h : m ∈ index.answers terms) :
    (m.id, m.fields) ∈ index.documents := by
  obtain ⟨entry, he, rfl⟩ := List.mem_map.mp h
  exact List.fst_mem_of_mem_zipIdx (List.mem_of_mem_filter he)

/-- What is shown of a ranking keeps its order, wherever the window lies. -/
theorem shown_sublist (request : Search) (ranked : List Match) :
    (request.shown ranked).Sublist ranked :=
  (List.drop_sublist _ _).trans (List.take_sublist _ _)

/-- A document that stands in the index is added to any index under the same identifier. -/
theorem add_keyed {index : Index} (hs : index.Sound) {key : Text} {stored : Fields}
    (h : (key, stored) ∈ index.documents) (state : Index) :
    ∃ next, state.add stored = .ok (key, next) := by
  have hid : stored.documentId? = some key := hs.keyed _ h
  unfold add
  rw [hid]
  exact ⟨_, rfl⟩

/-- Documents that score in the order of the index are ranked as they stand there. -/
theorem ranking_answers {index : Index} {query : Text}
    (h : (index.answers (Query.terms query)).Pairwise
      (Match.Precedes fun m => -(m.score : Int))) :
    index.ranking query none = .ok (index.answers (Query.terms query)) := by
  let found := index.answers (Query.terms query)
  have hsame : Match.byRelevance found = found :=
    (Match.byRelevance_ascending found (index.answers_positions _)).unique ⟨List.Perm.refl _, h⟩
  rw [ranking, matching_eq_answers]
  exact congrArg Except.ok hsame

end Index

/-- Are the identifiers of the documents among the fields that are loaded? -/
def Search.KeepsIdentifier (request : Search) : Prop :=
  ∀ names, request.fields = some names → (Field.identifier.name : Text) ∈ names

namespace Index

/-- What a page shows: different stored documents, each cut to the fields that are asked for, and what
is marked in them. -/
theorem search_shown {documents : List Fields} {request : Search} {result : SearchResult}
    (h : (ofDocuments documents).search request = .ok result) :
    ∃ matched : List Match,
      (matched.map (·.id)).Nodup ∧
      (∀ m ∈ matched, (m.id, m.fields) ∈ (ofDocuments documents).documents) ∧
      result.page.hits = matched.map (fun m => m.fields.restrict request.fields) ∧
      result.highlighting = highlighting (Query.terms request.query) matched := by
  have hs := sound_ofDocuments documents
  obtain ⟨ranked, hrank, rfl⟩ := search_eq_ok.mp h
  have hnodup : ((request.shown ranked).map (·.id)).Nodup :=
    (ranking_ids_nodup hs hrank).sublist ((shown_sublist request ranked).map _)
  refine ⟨request.shown ranked, hnodup, ?_, rfl, rfl⟩
  intro m hm
  exact mem_answers ((ranking_perm hrank).subset ((shown_sublist request ranked).subset hm))

theorem search_hits_distinct {documents : List Fields} {request : Search} {result : SearchResult}
    (hd : ∀ document ∈ documents, document.Distinct)
    (h : (ofDocuments documents).search request = .ok result) :
    ∀ hit ∈ result.page.hits, hit.Distinct := by
  obtain ⟨matched, -, hstored, hhits, -⟩ := search_shown h
  intro hit hm
  rw [hhits] at hm
  obtain ⟨m, hshown, rfl⟩ := List.mem_map.mp hm
  exact (hd _ (mem_ofDocuments (hstored m hshown))).restrict _

/-- A hit belongs to the document that is stored under its first identifier, and its digest goes by
the last one. -/
theorem search_identifiers (options : PageOptions) (documents : List Fields) (request : Search)
    (result : SearchResult) (hd : ∀ document ∈ documents, document.Distinct)
    (hk : request.KeepsIdentifier)
    (h : (ofDocuments documents).search request = .ok result) :
    let snippets := Snippets.ofHighlighting result.highlighting
    let terms := Query.terms request.query
    ∃ shown : List (Text × Fields),
      (shown.map (·.1)).Nodup ∧
      result.page.hits = shown.map (fun entry => entry.2.restrict request.fields) ∧
      ∀ key stored, (key, stored) ∈ shown →
        let hit := stored.restrict request.fields
        let ids := stored.values Field.identifier.name
        (key, stored) ∈ (ofDocuments documents).documents ∧ stored ∈ documents ∧
        (∀ index : Index, ∃ next, index.add stored = .ok (key, next)) ∧
        hit.documentId? = some key ∧
        ∀ d, (Digest.ofFields options hit).outcome = .ok d →
          (d.documentId = some key ↔ ids.getLast? = ids.head?) ∧
          ∃ last, ids.getLast? = some last ∧ d.documentId = some last ∧
            d.features = "<HAS><L/><C SZ=\"" ++ kilobyteText d.size ++ "\" CID=\""
              ++ Text.Escape.attr last ++ "\" ENC=\"UTF-8\"/></HAS>" ∧
            (∀ other, (last, other) ∈ shown →
              d.snippet snippets = (other.fragments terms).head?.getD d.description) ∧
            (last ∉ shown.map (·.1) → d.snippet snippets = d.description) := by
  intro snippets terms
  have hs := sound_ofDocuments documents
  obtain ⟨matched, hnodup, hstored, hhits, hmarks⟩ := search_shown h
  let shown := matched.map fun m => (m.id, m.fields)
  have hids : shown.map (·.1) = matched.map (·.id) := by
    simp [shown, Function.comp_def]
  have hsnippets : snippets = Snippets.ofHighlighting (highlighting terms matched) :=
    congrArg Snippets.ofHighlighting hmarks
  refine ⟨shown, hids ▸ hnodup, ?_, ?_⟩
  · rw [hhits]
    simp [shown, Function.comp_def]
  · intro key stored hm hit ids
    obtain ⟨m, hshown, hpair⟩ := List.mem_map.mp hm
    obtain ⟨rfl, rfl⟩ := Prod.mk.inj hpair
    have hmem := hstored m hshown
    have hkeep : hit.values Field.identifier.name = ids := Fields.values_restrict hk
    have hfirst : ids.head? = some m.id := hs.keyed _ hmem
    refine ⟨hmem, mem_ofDocuments hmem, add_keyed hs hmem, ?_, ?_⟩
    · rw [Fields.documentId?, hkeep]
      exact hfirst
    · intro d hdigest
      have hdistinct : hit.Distinct := (hd _ (mem_ofDocuments hmem)).restrict _
      have hlast : d.documentId = ids.getLast? := by
        rw [← hkeep]
        exact Digest.ofFields_documentId hdistinct hdigest
      refine ⟨by rw [hlast, hfirst], ?_⟩
      -- The identifier that adding took was the first one, so there is a last one.
      obtain ⟨last, hl⟩ : ∃ last, ids.getLast? = some last := by
        apply Option.ne_none_iff_exists'.mp
        intro hnone
        rw [List.getLast?_eq_none_iff.mp hnone] at hfirst
        cases hfirst
      have hid : d.documentId = some last := hlast.trans hl
      refine ⟨last, hl, hid, Digest.features_of_documentId hid, ?_, ?_⟩
      · intro other ho
        obtain ⟨owner, howner, hpair⟩ := List.mem_map.mp ho
        obtain ⟨rfl, rfl⟩ := Prod.mk.inj hpair
        exact (congrArg d.snippet hsnippets).trans (snippet_of_shown hnodup howner hid)
      · intro hno
        rw [hids] at hno
        exact (congrArg d.snippet hsnippets).trans (snippet_of_not_shown hno hid)

/-- A document that has its own identifier also as its last one goes by it. -/
theorem search_own_last :
    let black : Fields := [("id", ["a", "b", "a"]), ("description", ["Black tea"])]
    let green : Fields := [("id", ["b"]), ("description", ["Green tea"])]
    let request : Search := { query := "tea", fields := some Field.requested }
    let d : Digest :=
      { documentId := some "a", description := "Black tea", texts := ["Black tea"] }
    (∀ document ∈ [black, green], document.Distinct) ∧ request.KeepsIdentifier ∧
      ∃ result, (ofDocuments [black, green]).search request = .ok result ∧
        black ∈ result.page.hits ∧ black.documentId? = some ("a" : Text) ∧
        (Digest.ofFields {} black).outcome = .ok d ∧
        d.features = "<HAS><L/><C SZ=\"0k\" CID=\"a\" ENC=\"UTF-8\"/></HAS>" ∧
        d.snippet (Snippets.ofHighlighting result.highlighting) = "Black <b>tea</b>" := by
  intro black green request d
  have hd : ∀ document ∈ [black, green], document.Distinct := by decide
  have hk : request.KeepsIdentifier := by
    intro names hn
    obtain rfl := Option.some.inj hn
    decide
  let found := (ofDocuments [black, green]).answers (Query.terms request.query)
  have hrank : (ofDocuments [black, green]).ranking request.query request.sort = .ok found :=
    ranking_answers (by decide)
  have h := search_eq_ok.mpr ⟨found, hrank, rfl⟩
  have hmem : black ∈ (request.resultOf found).page.hits := by decide
  refine ⟨hd, hk, _, h, hmem, ?_⟩
  obtain ⟨shown, -, hhits, hall⟩ := search_identifiers {} [black, green] request _ hd hk h
  rw [hhits] at hmem
  obtain ⟨⟨key, stored⟩, hshown, hsame⟩ := List.mem_map.mp hmem
  obtain ⟨-, hstored, -, hkey, hdigest⟩ := hall key stored hshown
  have hsame : stored.restrict request.fields = black := hsame
  obtain rfl : stored = black := by
    simp only [List.mem_cons, List.not_mem_nil, or_false] at hstored
    rcases hstored with rfl | rfl
    · rfl
    · exact absurd hsame (by decide)
  obtain rfl : ("a" : Text) = key := Option.some.inj hkey
  obtain ⟨-, last, hlast, -, hfeatures, hown, -⟩ := hdigest d rfl
  obtain rfl : ("a" : Text) = last := Option.some.inj hlast
  refine ⟨rfl, rfl, hfeatures.trans (by decide), ?_⟩
  rw [hown _ hshown]
  decide

/-- Two teas. The first one has the identifier of the second one as a further value. -/
def twins : List Fields := [
  [("id", ["a", "b"]), ("description", ["Black tea"])],
  [("id", ["b"]), ("description", ["Green tea"])]]

/-- Of the twins the first one is stored as `a`, but written as `b`, with the fragment of the second
one. -/
theorem search_twins :
    ∃ result, (ofDocuments twins).search { query := "tea" } = .ok result ∧
      ∃ hit ∈ result.page.hits, hit.documentId? = some ("a" : Text) ∧
        ∃ d, (Digest.ofFields {} hit).outcome = .ok d ∧ d.documentId = some ("b" : Text) ∧
          d.features = "<HAS><L/><C SZ=\"0k\" CID=\"b\" ENC=\"UTF-8\"/></HAS>" ∧
          d.snippet (Snippets.ofHighlighting result.highlighting) = "Green <b>tea</b>" := by
  let found := (ofDocuments twins).answers (Query.terms "tea")
  have hrank : (ofDocuments twins).ranking "tea" none = .ok found := ranking_answers (by decide)
  have h : (ofDocuments twins).search { query := "tea" } = .ok _ :=
    search_eq_ok.mpr ⟨found, hrank, rfl⟩
  let black : Fields := [("id", ["a", "b"]), ("description", ["Black tea"])]
  refine ⟨_, h, black, by decide, rfl, _, rfl, rfl, rfl, ?_⟩
  decide

end Index

end SearchAppliance
