import SearchAppliance.Proofs.Index.Identifier
import SearchAppliance.Proofs.Text.Occurrences
import SearchAppliance.Proofs.Text.Words

namespace SearchAppliance

open Text (occurrences CountedFromLeft)

/-- The order of the fields of a document does not matter to any of them. -/
theorem Fields.values_perm {fields other : Fields} (hd : fields.Distinct) (h : other.Perm fields)
    (field : Text) : other.values field = fields.values field := by
  have ho : other.Distinct := (h.symm.map Prod.fst).nodup hd
  have hget : Pairs.get? field other = Pairs.get? field fields := by
    apply Option.ext
    intro values
    rw [Pairs.get?_eq_some hd, Pairs.get?_eq_some ho]
    exact h.mem_iff
  rw [values, values, hget]

namespace Query

theorem terms_ne_nil (query : Text) : ∀ term ∈ terms query, term ≠ [] := by
  intro term hm
  obtain ⟨word, hw, rfl⟩ := List.mem_map.mp hm
  exact (Text.LetterCase.lower_word hw).1

theorem space_not_mem_term (query : Text) : ∀ term ∈ terms query, .char ' ' ∉ term := by
  intro term hm
  obtain ⟨word, hw, rfl⟩ := List.mem_map.mp hm
  exact (Text.LetterCase.lower_word hw).2

/-- How often a term occurs in some texts, each of them searched on its own. -/
def countIn (texts : List (List CodePoint)) (term : List CodePoint) : Nat :=
  (texts.map (occurrences term)).foldr (· + ·) 0

theorem countIn_pos_iff {term : List CodePoint} (hn : term ≠ []) (texts : List (List CodePoint)) :
    0 < countIn texts term ↔ ∃ text ∈ texts, term <:+: text := by
  unfold countIn
  induction texts with
  | nil => simp
  | cons text rest ih =>
    have hsplit : (∃ other ∈ text :: rest, term <:+: other) ↔
        term <:+: text ∨ ∃ other ∈ rest, term <:+: other := by simp
    rw [List.map_cons, List.foldr_cons, hsplit, ← ih, ← Text.occurrences_pos_iff hn text]
    omega

variable {terms : List (List CodePoint)}

/-- Terms without spaces do not reach from one text into the next. -/
theorem occurrences_joined {term : List CodePoint} (hn : term ≠ []) (hs : .char ' ' ∉ term)
    (texts : List (List CodePoint)) : occurrences term (joined texts) = countIn texts term :=
  Text.occurrences_intercalate hn hs texts

theorem holds_iff (hn : ∀ term ∈ terms, term ≠ []) (hs : ∀ term ∈ terms, .char ' ' ∉ term)
    (fields : Fields) :
    Holds terms fields ↔ ∀ term ∈ terms, ∃ text ∈ texts fields, term <:+: text := by
  apply forall₂_congr
  intro term hm
  rw [occurrences_joined (hn term hm) (hs term hm), countIn_pos_iff (hn term hm)]

theorem total_eq (hn : ∀ term ∈ terms, term ≠ []) (hs : ∀ term ∈ terms, .char ' ' ∉ term)
    (fields : Fields) :
    total terms fields = (terms.map (countIn (texts fields))).foldr (· + ·) 0 := by
  have hcounts : terms.map (fun term => occurrences term (joined (texts fields))) =
      terms.map (countIn (texts fields)) :=
    List.map_congr_left fun term hm => occurrences_joined (hn term hm) (hs term hm) _
  rw [total, hcounts]

theorem score?_congr {fields other : Fields}
    (h : ∀ field ∈ Field.searchable, other.values field.name = fields.values field.name) :
    score? terms other = score? terms fields := by
  have htexts : texts other = texts fields := by
    unfold texts
    rw [List.flatMap_congr h]
  unfold score?
  rw [htexts]

theorem holds_nil (fields : Fields) : Holds [] fields := fun _ hm => absurd hm List.not_mem_nil

/-- Without terms every document is found, with nothing counted in it. -/
theorem answers_nil (index : Index) :
    index.answers [] = index.documents.zipIdx.map fun entry =>
      ⟨entry.1.1, entry.1.2, 0, entry.2⟩ := by
  rw [Index.answers, List.filter_eq_self.mpr]
  · rfl
  · exact fun entry _ => decide_eq_true (holds_nil entry.1.2)

/-- The score of a document is counted text by text. There is none exactly if a term stands in no
text of the searched fields. -/
theorem score_by_text (query : Text) (fields : Fields) :
    let terms := Query.terms query
    (score? terms fields = none ↔ ∃ term ∈ terms, ∀ text ∈ texts fields, ¬term <:+: text) ∧
      (∀ score, score? terms fields = some score →
        score = (terms.map fun term =>
          ((texts fields).map (occurrences term)).foldr (· + ·) 0).foldr (· + ·) 0) ∧
      (∀ term ∈ terms, ∀ text n, CountedFromLeft term text n ↔ occurrences term text = n) ∧
      (∀ other : Fields,
        (∀ field ∈ Field.searchable, other.values field.name = fields.values field.name) →
          score? terms other = score? terms fields) ∧
      (fields.Distinct → ∀ other : Fields, other.Perm fields →
        score? terms other = score? terms fields) ∧
      (terms = [] → ∀ index : Index, index.matching terms =
        index.documents.zipIdx.map fun entry => ⟨entry.1.1, entry.1.2, 0, entry.2⟩) := by
  intro terms
  have hn : ∀ term ∈ terms, term ≠ [] := terms_ne_nil query
  have hs : ∀ term ∈ terms, .char ' ' ∉ term := space_not_mem_term query
  refine ⟨?_, ?_, ?_, fun other h => score?_congr h, ?_, ?_⟩
  · rw [score?_eq, ite_eq_right_iff]
    simp only [reduceCtorEq, imp_false, holds_iff hn hs]
    push Not
    rfl
  · intro score h
    rw [score?_eq] at h
    split at h
    · rw [← Option.some.inj h, total_eq hn hs]
      rfl
    · cases h
  · intro term hm text n
    exact Text.countedFromLeft_iff (hn term hm)
  · intro hd other hp
    exact score?_congr fun field _ => Fields.values_perm hd hp field.name
  · intro hnone index
    rw [Index.matching_eq_answers, hnone, answers_nil]

example :
    let document : Fields := [("title", ["tea", "pot"])]
    score? (Query.terms "teapot") document = none ∧
      score? (Query.terms "teapot") (("text_t", ["A Teapot"]) :: document) = some 1 := by decide

end Query

end SearchAppliance
