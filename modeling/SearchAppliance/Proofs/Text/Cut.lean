import SearchAppliance.Text.Words

namespace SearchAppliance.Text

variable {α : Type}

/-- Does a text have none of some characters? -/
def Lacks (stops cs : List α) : Prop := ∀ c ∈ stops, c ∉ cs

instance [DecidableEq α] (stops cs : List α) : Decidable (Lacks stops cs) := List.decidableBAll _ stops

@[simp] theorem lacks_nil (stops : List α) : Lacks stops [] := fun _ _ => List.not_mem_nil

theorem lacks_map_char {stops cs : List Char} :
    Lacks (stops.map CodePoint.char) (cs.map .char) ↔ Lacks stops cs := by
  simp only [Lacks, List.forall_mem_map, char_mem_map]

/-- A list says what comes before its last stop and what comes after that. -/
theorem append_stop_inj {stop : α} {front front' rest rest' : List α}
    (h : stop ∉ rest) (h' : stop ∉ rest') :
    front ++ stop :: rest = front' ++ stop :: rest' ↔ front = front' ∧ rest = rest' := by
  constructor
  · intro heq
    rcases List.append_eq_append_iff.mp heq with ⟨between, rfl, hrest⟩ | ⟨between, rfl, hrest⟩
    · cases between with
      | nil => exact ⟨(List.append_nil _).symm, (List.cons.inj hrest).2⟩
      | cons c between => exact absurd (by simp [(List.cons.inj hrest).2]) h
    · cases between with
      | nil => exact ⟨List.append_nil _, (List.cons.inj hrest).2.symm⟩
      | cons c between => exact absurd (by simp [(List.cons.inj hrest).2]) h'
  · rintro ⟨rfl, rfl⟩
    rfl

variable [DecidableEq α]

theorem takeWhile_append {stop : α} {cs : List α} (h : stop ∉ cs) (rest : List α) :
    (cs ++ rest).takeWhile (· ≠ stop) = cs ++ rest.takeWhile (· ≠ stop) ∧
    (cs ++ rest).dropWhile (· ≠ stop) = rest.dropWhile (· ≠ stop) := by
  have hall : ∀ c ∈ cs, decide (c ≠ stop) = true := by
    intro c hc
    exact decide_eq_true fun he => h (he ▸ hc)
  exact ⟨List.takeWhile_append_of_pos hall, List.dropWhile_append_of_pos hall⟩

theorem takeWhile_until {stop : α} {cs : List α} (h : stop ∉ cs) (rest : List α) :
    (cs ++ stop :: rest).takeWhile (· ≠ stop) = cs ∧
    (cs ++ stop :: rest).dropWhile (· ≠ stop) = stop :: rest := by
  obtain ⟨ht, hd⟩ := takeWhile_append h (stop :: rest)
  rw [ht, hd]
  simp

theorem cut_append {stop : α} {cs : List α} (h : stop ∉ cs) (rest : List α) :
    cut stop (cs ++ stop :: rest) = cs :: cut stop rest := by
  induction cs with
  | nil => simp [cut]
  | cons c cs ih =>
    simp only [List.mem_cons, not_or] at h
    rw [List.cons_append, cut, if_neg (Ne.symm h.1), ih h.2]

theorem cut_all {stop : α} {cs : List α} (h : stop ∉ cs) : cut stop cs = [cs] := by
  induction cs with
  | nil => rfl
  | cons c cs ih =>
    simp only [List.mem_cons, not_or] at h
    rw [cut, if_neg (Ne.symm h.1), ih h.2]

theorem cut_ne_nil (stop : α) (cs : List α) : cut stop cs ≠ [] := by
  cases cs with
  | nil => exact List.cons_ne_nil _ _
  | cons c cs =>
    rw [cut]
    split
    · exact List.cons_ne_nil _ _
    · split <;> exact List.cons_ne_nil _ _

theorem cut_cons_of_ne {stop c : α} (h : c ≠ stop) (cs : List α) :
    ∃ part rest, cut stop cs = part :: rest ∧ cut stop (c :: cs) = (c :: part) :: rest := by
  obtain ⟨part, rest, hcs⟩ := List.exists_cons_of_ne_nil (cut_ne_nil stop cs)
  refine ⟨part, rest, hcs, ?_⟩
  rw [cut, if_neg h, hcs]

theorem length_cut (stop : α) (cs : List α) :
    (cut stop cs).length = cs.count stop + 1 := by
  induction cs with
  | nil => rfl
  | cons c cs ih =>
    by_cases h : c = stop
    · subst h
      rw [cut, if_pos rfl, List.length_cons, ih, List.count_cons_self]
    · obtain ⟨part, rest, hcs, hcut⟩ := cut_cons_of_ne h cs
      rw [hcut, List.count_cons_of_ne h, ← ih, hcs, List.length_cons, List.length_cons]

/-- The parts of a text, with the stop between them, give it back. -/
theorem intercalate_cut (stop : α) (cs : List α) : [stop].intercalate (cut stop cs) = cs := by
  induction cs with
  | nil => rfl
  | cons c cs ih =>
    by_cases h : c = stop
    · subst h
      obtain ⟨part, rest, hcs⟩ := List.exists_cons_of_ne_nil (cut_ne_nil c cs)
      rw [hcs] at ih
      rw [cut, if_pos rfl, hcs, List.intercalate_cons_cons, ih]
      rfl
    · obtain ⟨part, rest, hcs, hcut⟩ := cut_cons_of_ne h cs
      rw [hcs] at ih
      rw [hcut]
      cases rest with
      | nil => rw [List.intercalate_singleton] at ih ⊢; rw [ih]
      | cons next more =>
        rw [List.intercalate_cons_cons] at ih ⊢
        rw [List.cons_append, List.cons_append, ih]

end SearchAppliance.Text
