import SearchAppliance.Proofs.Index.Answer
import SearchAppliance.Proofs.Outcome

namespace SearchAppliance

/-- The number in the first value of a field, zero if it holds none, whatever its length. -/
def Fields.number (fields : Fields) (field : Text) : Int :=
  (((fields.values field).head?.bind (Number.Numeral.ofList? ·.toList)).map
    Number.Numeral.toInt).getD 0

theorem Fields.sortKey_ok {fields : Fields} {field : Text} {n : Int}
    (h : fields.sortKey field = .ok n) : n = fields.number field := by
  unfold sortKey at h
  unfold number
  cases hn : (fields.values field).head?.bind (Number.Numeral.ofList? ·.toList) with
  | none =>
    simp only [hn, Except.ok.injEq] at h
    simp [← h]
  | some numeral =>
    simp only [hn, Number.Numeral.value] at h
    split at h
    · exact absurd h (by simp)
    · simpa using h.symm

namespace Match

/-- Strictly before: by a smaller key, or with equal keys by an earlier position. -/
def Precedes (key : Match → Int) (a b : Match) : Prop :=
  key a < key b ∨ key a = key b ∧ a.position < b.position

instance (key : Match → Int) : DecidableRel (Precedes key) := fun _ _ =>
  inferInstanceAs (Decidable (_ ∨ _))

/-- All the matches found, each of them once, in strictly ascending order. -/
structure Ascending (key : Match → Int) (found ranked : List Match) : Prop where
  perm : ranked.Perm found
  sorted : ranked.Pairwise (Precedes key)

/-- There is at most one such arrangement. -/
theorem Ascending.unique {key : Match → Int} {found a b : List Match}
    (ha : Ascending key found a) (hb : Ascending key found b) : a = b := by
  apply List.Perm.eq_of_pairwise _ ha.sorted hb.sorted (ha.perm.trans hb.perm.symm)
  intro x y _ _ hxy hyx
  unfold Precedes at hxy hyx
  omega

/-- In an ascending arrangement, reversed or not, keys do not fall, or do not rise. -/
theorem pairwise_of_ascending {key : Match → Int} {found ranked : List Match} {reversed : Bool}
    (h : Ascending key found (if reversed then ranked.reverse else ranked)) :
    ranked.Pairwise fun a b => if reversed then key b ≤ key a else key a ≤ key b := by
  have hle {ms : List Match} (hs : ms.Pairwise (Precedes key)) :
      ms.Pairwise fun a b => key a ≤ key b := by
    apply hs.imp
    intro a b hab
    unfold Precedes at hab
    omega
  cases reversed with
  | false => exact hle h.sorted
  | true => exact List.pairwise_reverse.mp (hle h.sorted)

theorem before_iff (key : Match → Int) (a b : Match) :
    before (key a, a) (key b, b) = true ↔
      key a < key b ∨ key a = key b ∧ a.position ≤ b.position := by
  simp [before]

/-- Sorting matches of different positions arranges them strictly. -/
theorem arrange_ascending (key : Match → Int) (found : List Match)
    (hp : found.Pairwise fun a b => a.position < b.position) :
    Ascending key found (arrange (found.map fun m => (key m, m))) := by
  let keyed := found.map fun m => (key m, m)
  have hperm : (arrange keyed).Perm found := by
    have h := (List.mergeSort_perm keyed before).map (·.2)
    rwa [show keyed.map (·.2) = found by simp [keyed, Function.comp_def]] at h
  refine ⟨hperm, ?_⟩
  have hsort : (keyed.mergeSort before).Pairwise fun a b => before a b = true := by
    apply List.pairwise_mergeSort
    · intro a b c hab hbc
      simp only [before, Bool.or_eq_true, Bool.and_eq_true, decide_eq_true_eq, beq_iff_eq]
        at hab hbc ⊢
      omega
    · intro a b
      simp only [before, Bool.or_eq_true, Bool.and_eq_true, decide_eq_true_eq, beq_iff_eq]
      omega
  have hkey : ∀ pair ∈ keyed.mergeSort before, pair.1 = key pair.2 := by
    intro pair hmem
    obtain ⟨m, -, rfl⟩ := List.mem_map.mp (List.mem_mergeSort.mp hmem)
    rfl
  have hle : (arrange keyed).Pairwise fun a b =>
      key a < key b ∨ key a = key b ∧ a.position ≤ b.position := by
    apply List.pairwise_map.mpr
    apply hsort.imp_of_mem
    intro a b ha hb hab
    obtain ⟨n, m⟩ := a
    obtain ⟨k, l⟩ := b
    obtain rfl : n = key m := hkey _ ha
    obtain rfl : k = key l := hkey _ hb
    exact (before_iff key m l).mp hab
  -- Equal keys at equal positions cannot meet: the positions of the matches found differ.
  have hne : (arrange keyed).Pairwise fun a b => a.position ≠ b.position := by
    have hdiff : found.Pairwise fun a b => a.position ≠ b.position := hp.imp Nat.ne_of_lt
    exact hperm.symm.pairwise hdiff Ne.symm
  apply (hle.and hne).imp
  intro a b h
  unfold Precedes
  omega

theorem mapM_key {found : List Match} {field : Text} {keyed : List (Int × Match)}
    (h : found.mapM (fun m => (m.fields.sortKey field).map (·, m)) = .ok keyed) :
    keyed = found.map fun m => (m.fields.number field, m) := by
  induction found generalizing keyed with
  | nil => exact (Except.ok.inj h).symm
  | cons m rest ih =>
    rw [List.mapM_cons] at h
    obtain ⟨pair, hp, h⟩ := Outcome.bind_eq_ok.mp h
    obtain ⟨pairs, hr, h⟩ := Outcome.bind_eq_ok.mp h
    obtain ⟨n, hn, rfl⟩ := Outcome.map_eq_ok.mp hp
    rw [← Outcome.pure_eq_ok.mp h, ih hr, Fields.sortKey_ok hn]
    rfl

theorem mapM_key_isOk (field : Text) (found : List Match) :
    (found.mapM fun m : Match => (m.fields.sortKey field).map (·, m)).isOk =
      found.all fun m => (m.fields.sortKey field).isOk := by
  induction found with
  | nil => rfl
  | cons m rest ih =>
    rw [List.mapM_cons, List.all_cons, ← ih]
    cases m.fields.sortKey field with
    | error cause => rfl
    | ok n => cases rest.mapM fun m => (m.fields.sortKey field).map (·, m) <;> rfl

/-- A field can be sorted by exactly if each of the matches has a readable number in it. -/
theorem byField_isOk (clause : SortClause) (found : List Match) :
    (byField clause found).isOk = found.all fun m => (m.fields.sortKey clause.field).isOk := by
  rw [← mapM_key_isOk, byField]
  cases found.mapM fun m => (m.fields.sortKey clause.field).map (·, m) <;> rfl

theorem byRelevance_ascending (found : List Match)
    (hp : found.Pairwise fun a b => a.position < b.position) :
    Ascending (fun m => -(m.score : Int)) found (byRelevance found) :=
  arrange_ascending _ found hp

/-- Sorting by a field gives the ascending arrangement, or its exact reverse. -/
theorem byField_ascending {clause : SortClause} {found ranked : List Match}
    (hp : found.Pairwise fun a b => a.position < b.position)
    (h : byField clause found = .ok ranked) :
    Ascending (fun m => m.fields.number clause.field) found
      (if clause.descending then ranked.reverse else ranked) := by
  obtain ⟨keyed, hk, h⟩ := Outcome.bind_eq_ok.mp h
  have ha := arrange_ascending (fun m => m.fields.number clause.field) found hp
  rw [← mapM_key hk] at ha
  have hr := Outcome.pure_eq_ok.mp h
  cases hd : clause.descending with
  | false => simpa [hd, ← hr] using ha
  | true => simpa [hd, ← hr] using ha

end Match

end SearchAppliance
