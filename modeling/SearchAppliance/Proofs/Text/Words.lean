import SearchAppliance.Proofs.Text.LetterCase
import SearchAppliance.Text.Words

namespace SearchAppliance.Text

theorem headWord_not_blank (cs : List CodePoint) :
    (∀ c ∈ (headWord cs).1, isBlank c = false) ∧
      ∀ word ∈ (headWord cs).2, ∀ c ∈ word, isBlank c = false := by
  induction cs with
  | nil => simp [headWord]
  | cons c cs ih =>
    obtain ⟨hword, hrest⟩ := ih
    simp only [headWord]
    split
    · refine ⟨fun _ h => absurd h List.not_mem_nil, ?_⟩
      split
      · exact hrest
      · exact List.forall_mem_cons.mpr ⟨hword, hrest⟩
    · next hc => exact ⟨List.forall_mem_cons.mpr ⟨by simpa using hc, hword⟩, hrest⟩

/-- No character of a word is blank. -/
theorem words_not_blank (cs : List CodePoint) : ∀ word ∈ words cs, ∀ c ∈ word, isBlank c = false := by
  obtain ⟨hword, hrest⟩ := headWord_not_blank cs
  simp only [words]
  split
  · exact hrest
  · exact List.forall_mem_cons.mpr ⟨hword, hrest⟩

namespace LetterCase

/-- Lower case has the lower case of single characters, and what the capital sigma and the dotted
capital I become. -/
theorem mem_lowerFrom {before text : List CodePoint} {c : CodePoint} (h : c ∈ lowerFrom before text) :
    c ∈ (['ς', 'σ', 'i', '\u0307'] : List CodePoint) ∨ ∃ d ∈ text, c = lowerChar d := by
  induction text generalizing before with
  | nil => cases h
  | cons d ds ih =>
    have hrest : c ∈ lowerFrom (d :: before) ds →
        c ∈ (['ς', 'σ', 'i', '\u0307'] : List CodePoint) ∨ ∃ e ∈ d :: ds, c = lowerChar e := by
      intro hm
      refine (ih hm).imp_right ?_
      rintro ⟨e, he, hc⟩
      exact ⟨e, List.mem_cons_of_mem d he, hc⟩
    simp only [lowerFrom] at h
    split at h
    · rcases List.mem_cons.mp h with rfl | hm
      · left
        split <;> decide
      · exact hrest hm
    · split at h
      · rcases List.mem_cons.mp h with rfl | h
        · exact Or.inl (by decide)
        · rcases List.mem_cons.mp h with rfl | hm
          · exact Or.inl (by decide)
          · exact hrest hm
      · rcases List.mem_cons.mp h with rfl | hm
        · exact Or.inr ⟨d, List.mem_cons_self, rfl⟩
        · exact hrest hm

/-- No other character has the space as its lower case. -/
theorem eq_space_of_lowerChar {c : CodePoint} (h : lowerChar c = ' ') : c = ' ' := by
  have hsingle : isSingle (' ' : CodePoint).toNat = true := by decide +kernel
  have hcode : ShiftRun.move lowerRuns c.toNat = (' ' : CodePoint).toNat := by
    rw [← toNat_lowerChar, h]
  exact CodePoint.toNat_inj.mp (eq_of_move hsingle hcode)

theorem space_not_mem_lower {text : List CodePoint} (h : .char ' ' ∉ text) :
    .char ' ' ∉ lower text := by
  intro hm
  rcases mem_lowerFrom hm with hfixed | ⟨c, hc, heq⟩
  · exact absurd hfixed (by decide)
  · exact h (eq_space_of_lowerChar heq.symm ▸ hc)

/-- Words in lower case are not empty and have no space. -/
theorem lower_word {cs word : List CodePoint} (h : word ∈ words cs) :
    lower word ≠ [] ∧ .char ' ' ∉ lower word := by
  constructor
  · rw [Ne, lower_eq_nil]
    exact words_ne_nil cs word h
  · apply space_not_mem_lower
    intro hm
    exact absurd (words_not_blank cs word h _ hm) (by decide)

end LetterCase

end SearchAppliance.Text
