import SearchAppliance.Index.Search
import SearchAppliance.Proofs.Index.Store

namespace SearchAppliance

namespace Query

/-- Does every term occur in the texts of the document? -/
def Holds (terms : List (List CodePoint)) (fields : Fields) : Prop :=
  ∀ term ∈ terms, 0 < Text.occurrences term (joined (texts fields))

instance (terms : List (List CodePoint)) (fields : Fields) : Decidable (Holds terms fields) :=
  inferInstanceAs (Decidable (∀ term ∈ terms, _))

/-- How often the terms occur in all. -/
def total (terms : List (List CodePoint)) (fields : Fields) : Nat :=
  (terms.map fun term => Text.occurrences term (joined (texts fields))).foldr (· + ·) 0

theorem score?_eq (terms : List (List CodePoint)) (fields : Fields) :
    score? terms fields = if Holds terms fields then some (total terms fields) else none := by
  have hany : (terms.map (Text.occurrences · (joined (texts fields)))).any (· = 0) = true ↔
      ¬Holds terms fields := by
    simp [Holds, Nat.pos_iff_ne_zero]
  unfold score?
  by_cases h : Holds terms fields
  · have hn := mt hany.mp (not_not.mpr h)
    simp only [hn, if_pos h]
    rfl
  · simp only [hany.mpr h, if_neg h, if_true]

end Query

namespace Index

/-- The documents in which every term occurs, in the order of the index. -/
def answers (index : Index) (terms : List (List CodePoint)) : List Match :=
  (index.documents.zipIdx.filter fun entry => Query.Holds terms entry.1.2).map fun entry =>
    ⟨entry.1.1, entry.1.2, Query.total terms entry.1.2, entry.2⟩

theorem matching_eq_answers (index : Index) (terms : List (List CodePoint)) :
    index.matching terms = index.answers terms := by
  have run (documents : List (Text × Fields)) (position : Nat) :
      matchesFrom terms position documents =
        ((documents.zipIdx position).filter fun entry => Query.Holds terms entry.1.2).map
          fun entry => ⟨entry.1.1, entry.1.2, Query.total terms entry.1.2, entry.2⟩ := by
    induction documents generalizing position with
    | nil => rfl
    | cons document rest ih =>
      obtain ⟨id, fields⟩ := document
      rw [matchesFrom, Query.score?_eq, List.zipIdx_cons]
      by_cases h : Query.Holds terms fields
      · simp [h, ih]
      · simp [h, ih]
  exact run index.documents 0

theorem answers_length (index : Index) (terms : List (List CodePoint)) :
    (index.answers terms).length =
      index.documents.countP fun document => Query.Holds terms document.2 := by
  have h := List.zipIdx_map_fst 0 index.documents
  conv_rhs => rw [← h, List.countP_map]
  rw [answers, List.length_map, List.countP_eq_length_filter]
  rfl

theorem answers_positions (index : Index) (terms : List (List CodePoint)) :
    (index.answers terms).Pairwise fun a b => a.position < b.position := by
  have places : index.documents.zipIdx.Pairwise fun a b => a.2 < b.2 := by
    have h : (index.documents.zipIdx.map Prod.snd).Pairwise (· < ·) := by
      rw [List.zipIdx_map_snd]
      exact List.pairwise_lt_range'
    exact List.pairwise_map.mp h
  exact List.pairwise_map.mpr (places.filter _)

theorem answers_ids_sublist (index : Index) (terms : List (List CodePoint)) :
    ((index.answers terms).map (·.id)).Sublist (index.documents.map (·.1)) := by
  have h : index.documents.map (·.1) = index.documents.zipIdx.map (·.1.1) := by
    conv_lhs => rw [← List.zipIdx_map_fst 0 index.documents, List.map_map]
    rfl
  rw [answers, List.map_map, h]
  exact List.filter_sublist.map _

theorem answers_ids_nodup {index : Index} (hs : index.Sound) (terms : List (List CodePoint)) :
    ((index.answers terms).map (·.id)).Nodup :=
  hs.nodup.sublist (index.answers_ids_sublist terms)

end Index

end SearchAppliance
