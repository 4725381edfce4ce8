import SearchAppliance.Proofs.Index.Score

namespace SearchAppliance

open Text (occurrences)
open Text.LetterCase (lower beginsAlike StandsIn Agree)

namespace Marking

variable {terms : List (List CodePoint)}

theorem any_marked_extend (c : CodePoint) (pieces : List Piece) :
    (extend c pieces).any (·.marked) = pieces.any (·.marked) := by
  unfold extend
  split <;> rfl

theorem matchLength?_isSome {text : List CodePoint} :
    (matchLength? terms text).isSome = true ↔ ∃ term ∈ terms, beginsAlike term text = true := by
  rw [matchLength?, Option.isSome_map, List.find?_isSome]

/-- Something is marked exactly if a term stands in the text. -/
theorem any_marked_pieces (hn : ∀ term ∈ terms, term ≠ []) (text : List CodePoint) :
    (pieces terms text).any (·.marked) = true ↔ ∃ term ∈ terms, StandsIn term text := by
  unfold pieces
  induction text with
  | nil =>
    constructor
    · intro h
      cases h
    · rintro ⟨term, hm, hs⟩
      exact absurd hs (Text.LetterCase.not_standsIn_nil (hn term hm))
  | cons c cs ih =>
    have hcons : (∃ term ∈ terms, StandsIn term (c :: cs)) ↔
        (matchLength? terms (c :: cs)).isSome = true ∨ ∃ term ∈ terms, StandsIn term cs := by
      rw [matchLength?_isSome, ← exists_or]
      simp only [Text.LetterCase.standsIn_cons, and_or_left]
    rw [hcons, piecesFrom]
    cases matchLength? terms (c :: cs) with
    | some n => simp
    | none =>
      rw [any_marked_extend, ih]
      simp

/-- A value has a fragment exactly if a term stands in its beginning. -/
theorem isSome_fragment? (hn : ∀ term ∈ terms, term ≠ []) (value : Text) :
    (fragment? terms value).isSome = true ↔
      ∃ term ∈ terms, StandsIn term (value.toList.take fragmentLimit) := by
  rw [← any_marked_pieces hn, fragment?]
  split
  · next h => simp [h]
  · next h => simpa using h

/-- Under the name of a field stand the fragments of its values. -/
theorem get?_highlight (terms : List (List CodePoint)) (fields : Fields) {field : Field}
    (hf : field ∈ Field.highlighted) :
    (Pairs.get? (field.name : Text) (highlight terms fields)).getD [] =
      (fields.values field.name).filterMap (fragment? terms) := by
  apply Pairs.get?_filled
  · rw [List.map_map]
    exact (by decide : (Field.highlighted.map (Text.ofString ·.name)).Nodup)
  · exact List.mem_map.mpr ⟨field, hf, rfl⟩

end Marking

/-- The fragments of a field of the document that is stored under an identifier. -/
def Highlighting.fragments (highlighting : Highlighting) (id field : Text) : List Text :=
  (Pairs.get? field ((Pairs.get? id highlighting).getD [])).getD []

namespace Index

/-- Every value of a marked field has its fragment or none. It has one exactly if a term stands in its
beginning, character by character, which is not the same as the letters in lower case. -/
theorem search_fragments (documents : List Fields) (request : Search) (result : SearchResult)
    (h : (ofDocuments documents).search request = .ok result) :
    let terms := Query.terms request.query
    ∃ shown : List (Text × Fields),
      (shown.map (·.1)).Nodup ∧
      result.page.hits = shown.map (fun entry => entry.2.restrict request.fields) ∧
      ∀ key stored, (key, stored) ∈ shown → (key, stored) ∈ (ofDocuments documents).documents ∧
        ∀ field ∈ Field.highlighted,
          result.highlighting.fragments key field.name =
            (stored.values field.name).filterMap (Marking.fragment? terms) ∧
          ∀ value ∈ stored.values field.name,
            let start := value.toList.take Marking.fragmentLimit
            let marked := (Marking.fragment? terms value).isSome = true
            let occurs := ∃ term ∈ terms, 0 < occurrences term (lower start)
            (marked ↔ ∃ term ∈ terms, StandsIn term start) ∧
              (.char 'İ' ∉ start → occurs → marked) ∧
              ((∀ term ∈ terms, Agree term start) → (marked ↔ occurs)) := by
  intro terms
  obtain ⟨matched, hnodup, hstored, hhits, hmarks⟩ := search_shown h
  refine ⟨matched.map fun m => (m.id, m.fields), ?_, ?_, ?_⟩
  · rw [List.map_map]
    exact hnodup
  · rw [hhits]
    simp [Function.comp_def]
  intro key stored hm
  obtain ⟨m, hshown, hpair⟩ := List.mem_map.mp hm
  obtain ⟨rfl, rfl⟩ := Prod.mk.inj hpair
  refine ⟨hstored m hshown, ?_⟩
  intro field hf
  constructor
  · have hown : (Pairs.get? m.id (highlighting terms matched)).getD [] =
        Marking.highlight terms m.fields := get?_highlighting hnodup hshown
    rw [← Marking.get?_highlight terms m.fields hf, ← hown, hmarks]
    rfl
  intro value _ start marked occurs
  have hterms : ∀ term ∈ terms, term ≠ [] := Query.terms_ne_nil request.query
  have hmarked : marked ↔ ∃ term ∈ terms, StandsIn term start :=
    Marking.isSome_fragment? hterms value
  have hfound : .char 'İ' ∉ start → occurs → marked := by
    rintro hi ⟨term, hm, ho⟩
    rw [Text.occurrences_pos_iff (hterms term hm)] at ho
    exact hmarked.mpr ⟨term, hm, Text.LetterCase.standsIn_of_infix hi ho⟩
  refine ⟨hmarked, hfound, ?_⟩
  intro hagree
  constructor
  · intro hm
    obtain ⟨term, hm, hstands⟩ := hmarked.mp hm
    have ho := Text.LetterCase.infix_of_standsIn (hagree term hm) hstands
    exact ⟨term, hm, (Text.occurrences_pos_iff (hterms term hm) _).mpr ho⟩
  · rintro ⟨term, hm, ho⟩
    exact hfound (hagree term hm).undotted ⟨term, hm, ho⟩

/-- One of two values has a fragment, the one in which the word occurs in lower case. -/
theorem search_fragments_tea :
    let document : Fields := [("id", ["a"]), ("description", ["Black TEA", "Coffee"])]
    ∃ result, (ofDocuments [document]).search { query := "tea" } = .ok result ∧
      result.page.hits = [document] ∧
      result.highlighting.fragments "a" "description" = [("Black <b>TEA</b>" : Text)] ∧
      ∀ value ∈ (["Black TEA", "Coffee"] : List Text),
        (Marking.fragment? [("tea" : Text).toList] value).isSome = true ↔
          ∃ term ∈ [("tea" : Text).toList],
            0 < occurrences term (lower (value.toList.take Marking.fragmentLimit)) := by
  intro document
  let found := (ofDocuments [document]).answers (Query.terms "tea")
  have hrank : (ofDocuments [document]).ranking "tea" none = .ok found :=
    ranking_answers (by decide)
  have h : (ofDocuments [document]).search { query := "tea" } = .ok _ :=
    search_eq_ok.mpr ⟨found, hrank, rfl⟩
  obtain ⟨shown, -, hhits, hall⟩ := search_fragments [document] _ _ h
  have hpage : (Search.resultOf { query := "tea" } found).page.hits = [document] := by decide
  have hmem : document ∈ (Search.resultOf { query := "tea" } found).page.hits := by
    rw [hpage]
    exact List.mem_singleton_self document
  refine ⟨_, h, hpage, ?_⟩
  rw [hhits] at hmem
  obtain ⟨⟨key, stored⟩, hm, -⟩ := List.mem_map.mp hmem
  obtain ⟨hstored, hfields⟩ := hall key stored hm
  obtain ⟨rfl, rfl⟩ : key = "a" ∧ stored = document := by
    have hstored : (key, stored) ∈ [(("a" : Text), document)] := hstored
    simpa using hstored
  obtain ⟨hfragments, hvalues⟩ := hfields .description (by decide)
  refine ⟨hfragments.trans (by decide), ?_⟩
  intro value hv
  have hagree : ∀ term ∈ Query.terms "tea",
      Agree term (value.toList.take Marking.fragmentLimit) := by
    intro term ht
    obtain rfl : term = ("tea" : Text).toList := List.mem_singleton.mp ht
    have hascii : (["Black TEA", "Coffee"] : List Text).all fun value =>
        (value.toList.take Marking.fragmentLimit).all Text.LetterCase.isAscii := by decide
    exact Text.LetterCase.agree_of_ascii rfl rfl (List.all_eq_true.mp hascii value hv)
  exact (hvalues value hv).2.2 hagree

/-- A dotted capital I is found in lower case and not marked; a long s is marked and not found. -/
theorem search_unlike_letters :
    let dotted : Fields := [("id", ["a"]), ("description", ["İ"])]
    let long : Fields := [("id", ["a"]), ("title", ["s"]), ("description", ["ſ"])]
    (∃ result, (ofDocuments [dotted]).search { query := "İ" } = .ok result ∧
      result.page.hits = [dotted] ∧
      (∃ term ∈ Query.terms "İ", 0 < occurrences term (lower ("İ" : Text).toList)) ∧
      result.highlighting.fragments "a" "description" = []) ∧
    ∃ result, (ofDocuments [long]).search { query := "s" } = .ok result ∧
      result.page.hits = [long] ∧
      (¬∃ term ∈ Query.terms "s", 0 < occurrences term (lower ("ſ" : Text).toList)) ∧
      result.highlighting.fragments "a" "description" = [("<b>ſ</b>" : Text)] := by
  intro dotted long
  constructor
  · let found := (ofDocuments [dotted]).answers (Query.terms "İ")
    have hrank : (ofDocuments [dotted]).ranking "İ" none = .ok found := ranking_answers (by decide)
    have h : (ofDocuments [dotted]).search { query := "İ" } = .ok _ :=
      search_eq_ok.mpr ⟨found, hrank, rfl⟩
    exact ⟨_, h, rfl, by decide, by decide⟩
  · let found := (ofDocuments [long]).answers (Query.terms "s")
    have hrank : (ofDocuments [long]).ranking "s" none = .ok found := ranking_answers (by decide)
    have h : (ofDocuments [long]).search { query := "s" } = .ok _ :=
      search_eq_ok.mpr ⟨found, hrank, rfl⟩
    exact ⟨_, h, rfl, by decide, by decide⟩

end Index

end SearchAppliance
