import SearchAppliance.Index.Search
import SearchAppliance.Proofs.Outcome

namespace SearchAppliance

theorem placeIn_nonneg (length : Nat) {n : Int} (h : 0 ≤ n) :
    placeIn length n = min n.toNat length := by
  rw [placeIn, if_neg (by omega)]

theorem window_eq {α : Type} {start rows : Int} (hs : 0 ≤ start) (hr : 0 ≤ rows) (xs : List α) :
    window start (start + rows) xs = (xs.drop start.toNat).take rows.toNat := by
  rw [window, placeIn_nonneg _ hs, placeIn_nonneg _ (by omega), ← List.take_eq_take_min,
    List.drop_take]
  have hsum : (start + rows).toNat = start.toNat + rows.toNat := by omega
  rcases Nat.le_total start.toNat xs.length with h | h
  · rw [Nat.min_eq_left h, hsum, Nat.add_sub_cancel_left]
  · rw [Nat.min_eq_right h, List.drop_of_length_le h, List.drop_length]
    simp

theorem window_length {α : Type} {start rows : Int} (hs : 0 ≤ start) (hr : 0 ≤ rows)
    (xs : List α) :
    ((window start (start + rows) xs).length : Int) =
      Page.expectedSize start rows xs.length := by
  rw [window_eq hs hr, List.length_take, List.length_drop, Page.expectedSize]
  split <;> omega

/-- What a request shows of a ranking. -/
def Search.shown (request : Search) (ranked : List Match) : List Match :=
  window request.offset (request.offset + request.rows) ranked

/-- The result that is cut from a ranking. -/
def Search.resultOf (request : Search) (ranked : List Match) : SearchResult where
  page := {
    offset := request.offset
    rows := request.rows
    found := ranked.length
    hits := (request.shown ranked).map fun m => m.fields.restrict request.fields }
  highlighting := Index.highlighting (Query.terms request.query) (request.shown ranked)

theorem Search.shown_eq {request : Search} (ho : 0 ≤ request.offset) (hr : 0 ≤ request.rows)
    (ranked : List Match) :
    request.shown ranked = (ranked.drop request.offset.toNat).take request.rows.toNat :=
  window_eq ho hr ranked

theorem Search.hits_length {request : Search} (ho : 0 ≤ request.offset) (hr : 0 ≤ request.rows)
    (ranked : List Match) :
    ((request.resultOf ranked).page.hits.length : Int) =
      Page.expectedSize request.offset request.rows ranked.length := by
  rw [← window_length ho hr ranked]
  simp [resultOf, shown]

namespace Index

/-- A search that answers has ranked all documents found, and shows a window of them. -/
theorem search_eq_ok {index : Index} {request : Search} {result : SearchResult} :
    index.search request = .ok result ↔
      ∃ ranked, index.ranking request.query request.sort = .ok ranked ∧
        request.resultOf ranked = result := by
  unfold search
  rw [Outcome.bind_eq_ok]
  constructor
  · rintro ⟨ranked, hr, h⟩
    exact ⟨ranked, hr, Outcome.pure_eq_ok.mp h⟩
  · rintro ⟨ranked, hr, rfl⟩
    exact ⟨ranked, hr, rfl⟩

/-- Only documents that are shown have marked fragments, in the order in which they are shown. -/
theorem highlighting_ids_sublist (terms : List (List CodePoint)) (shown : List Match) :
    ((highlighting terms shown).map (·.1)).Sublist (shown.map (·.id)) := by
  unfold highlighting
  split
  · exact List.nil_sublist _
  · let marked := shown.map fun m => (m.id, Marking.highlight terms m.fields)
    have h := (List.filter_sublist (l := marked) (p := fun entry => !entry.2.isEmpty)).map (·.1)
    simpa [marked, List.map_map, Function.comp_def] using h

end Index

end SearchAppliance
