import Mathlib.Data.List.Nodup
import SearchAppliance.Index.Store

namespace SearchAppliance

theorem Pairs.mem_put {α : Type} {key : Text} {value : α} {pairs : List (Text × α)}
    {pair : Text × α} (h : pair ∈ put key value pairs) :
    pair = (key, value) ∨ pair ∈ pairs := by
  induction pairs with
  | nil => simpa [put] using h
  | cons first rest ih =>
    obtain ⟨k, v⟩ := first
    by_cases hk : k = key
    · rw [put, if_pos hk] at h
      rcases List.mem_cons.mp h with h | h
      · exact Or.inl h
      · exact Or.inr (List.mem_cons_of_mem _ h)
    · rw [put, if_neg hk] at h
      rcases List.mem_cons.mp h with h | h
      · exact Or.inr (h ▸ List.mem_cons_self)
      · exact (ih h).imp_right (List.mem_cons_of_mem _)

/-- With keys that differ, a value is found exactly under its own one. -/
theorem Pairs.get?_eq_some {α : Type} {key : Text} {value : α} {pairs : List (Text × α)}
    (hn : (pairs.map (·.1)).Nodup) : get? key pairs = some value ↔ (key, value) ∈ pairs := by
  unfold get?
  rw [Option.map_eq_some_iff]
  constructor
  · rintro ⟨⟨k, v⟩, hf, rfl⟩
    obtain rfl : k = key := by simpa using List.find?_some hf
    exact List.mem_of_find?_eq_some hf
  · intro hm
    obtain ⟨pair, hf⟩ : ∃ pair, pairs.find? (·.1 = key) = some pair := by
      apply Option.isSome_iff_exists.mp
      rw [List.find?_isSome]
      exact ⟨(key, value), hm, by simp⟩
    have hk : pair.1 = key := by simpa using List.find?_some hf
    have hsame := List.inj_on_of_nodup_map hn (List.mem_of_find?_eq_some hf) hm hk
    exact ⟨pair, hf, congrArg Prod.snd hsame⟩

theorem Pairs.get?_eq_none {α : Type} {key : Text} {pairs : List (Text × α)} :
    get? key pairs = none ↔ key ∉ pairs.map (·.1) := by
  rw [get?, Option.map_eq_none_iff, List.find?_eq_none]
  constructor
  · intro h hm
    obtain ⟨pair, hp, rfl⟩ := List.mem_map.mp hm
    exact h pair hp (decide_eq_true rfl)
  · intro h pair hp hk
    exact h (List.mem_map.mpr ⟨pair, hp, of_decide_eq_true hk⟩)

/-- Of lists bound to keys that differ, leaving out the empty ones loses nothing. -/
theorem Pairs.get?_filled {α : Type} {key : Text} {values : List α}
    {pairs : List (Text × List α)} (hn : (pairs.map (·.1)).Nodup) (hm : (key, values) ∈ pairs) :
    (get? key (pairs.filter fun (_, values) => !values.isEmpty)).getD [] = values := by
  have hsub : (pairs.filter fun (_, values) => !values.isEmpty).Sublist pairs :=
    List.filter_sublist
  have hkeys := hn.sublist (hsub.map (·.1))
  by_cases hv : values = []
  · have hfresh : get? key (pairs.filter fun (_, values) => !values.isEmpty) = none := by
      rw [get?_eq_none]
      intro hk
      obtain ⟨pair, hp, hsame⟩ := List.mem_map.mp hk
      obtain ⟨hpair, hfilled⟩ := List.mem_filter.mp hp
      rw [List.inj_on_of_nodup_map hn hpair hm hsame, hv] at hfilled
      cases hfilled
    rw [hfresh, hv]
    rfl
  · have hfound : get? key (pairs.filter fun (_, values) => !values.isEmpty) = some values := by
      rw [get?_eq_some hkeys]
      exact List.mem_filter.mpr ⟨hm, by simpa using hv⟩
    rw [hfound]
    rfl

theorem Pairs.get?_map {α β : Type} (f : α → β) (key : Text) (pairs : List (Text × α)) :
    get? key (pairs.map fun (k, value) => (k, f value)) = (get? key pairs).map f := by
  rw [get?, get?, List.find?_map, Option.map_map, Option.map_map]
  rfl

namespace Index

/-- Offers a document to the index. One that cannot be added changes nothing. -/
def offer (index : Index) (document : Fields) : Index :=
  match index.add document with
  | .ok (_, index) => index
  | .error _ => index

/-- The index after documents were offered to an empty one, in order. -/
def ofDocuments (documents : List Fields) : Index := documents.foldl offer {}

theorem mem_offer {index : Index} {document : Fields} {entry : Text × Fields}
    (h : entry ∈ (index.offer document).documents) :
    entry ∈ index.documents ∨ entry.2 = document := by
  unfold offer add at h
  cases hid : document.documentId? with
  | none =>
    rw [hid] at h
    exact Or.inl h
  | some id =>
    rw [hid] at h
    rcases Pairs.mem_put h with rfl | hold
    · exact Or.inr rfl
    · exact Or.inl hold

/-- What the index holds was offered, and as it stands there. -/
theorem mem_ofDocuments {documents : List Fields} {entry : Text × Fields}
    (h : entry ∈ (ofDocuments documents).documents) : entry.2 ∈ documents := by
  have run (rest : List Fields) (index : Index)
      (hm : entry ∈ (rest.foldl offer index).documents) :
      entry ∈ index.documents ∨ entry.2 ∈ rest := by
    induction rest generalizing index with
    | nil => exact Or.inl hm
    | cons document rest ih =>
      rcases ih _ hm with hm | hm
      · rcases mem_offer hm with hm | rfl
        · exact Or.inl hm
        · exact Or.inr List.mem_cons_self
      · exact Or.inr (List.mem_cons_of_mem document hm)
  exact (run documents {} h).resolve_left List.not_mem_nil

/-- What every reachable index satisfies. -/
structure Sound (index : Index) : Prop where
  nodup : (index.documents.map (·.1)).Nodup
  keyed : ∀ entry ∈ index.documents, entry.2.documentId? = some entry.1

theorem sound_empty : Sound {} := ⟨List.nodup_nil, by simp⟩

theorem sound_add {index next : Index} {document : Fields} {id : Text} (hs : index.Sound)
    (h : index.add document = .ok (id, next)) : next.Sound := by
  unfold add at h
  cases hid : document.documentId? with
  | none => simp [hid] at h
  | some found =>
    simp only [hid, Except.ok.injEq, Prod.mk.injEq] at h
    obtain ⟨rfl, rfl⟩ := h
    constructor
    · change ((Pairs.put found document index.documents).map (·.1)).Nodup
      rw [Pairs.keys_put]
      split
      · exact hs.nodup
      · next fresh =>
        exact hs.nodup.append (List.nodup_singleton _)
          (by simpa [List.disjoint_singleton] using fresh)
    · intro entry hentry
      rcases Pairs.mem_put hentry with rfl | hold
      · exact hid
      · exact hs.keyed entry hold

theorem sound_offer {index : Index} (hs : index.Sound) (document : Fields) :
    (index.offer document).Sound := by
  unfold offer
  cases h : index.add document with
  | error cause => exact hs
  | ok result => exact sound_add hs h

/-- Every index that additions lead to is sound, failing additions included. -/
theorem sound_ofDocuments (documents : List Fields) : (ofDocuments documents).Sound := by
  have run (index : Index) (hs : index.Sound) : (documents.foldl offer index).Sound := by
    induction documents generalizing index with
    | nil => exact hs
    | cons document rest ih => exact ih _ (sound_offer hs document)
  exact run {} sound_empty

end Index

end SearchAppliance
