import Mathlib.Data.List.Forall2
import SearchAppliance.Text.LetterCase

namespace SearchAppliance.Text

namespace ShiftRun

/-- A code point stays, or a run that applies to it moves it. -/
theorem move_cases (runs : List ShiftRun) (n : Nat) :
    move runs n = n ∨ ∃ run ∈ runs, run.applies n = true ∧ move runs n = (n + run.shift).toNat := by
  induction runs with
  | nil => exact Or.inl rfl
  | cons run rest ih =>
    rw [move]
    split
    · exact Or.inl rfl
    · split
      · next h => exact Or.inr ⟨run, List.mem_cons_self, h, rfl⟩
      · rcases ih with hsame | ⟨other, hm, happlies, heq⟩
        · exact Or.inl hsame
        · exact Or.inr ⟨other, List.mem_cons_of_mem run hm, happlies, heq⟩

/-- Does every run of a table leave the code points from `first` to `last` alone, or those of them
that are as even as `first`? -/
def spares (first last : Nat) (everySecond : Bool) : List ShiftRun → Bool
  | [] => true
  | run :: rest =>
    Nat.blt last run.first
      || (Nat.blt run.last first || everySecond && run.step == 2 && (first + run.first) % 2 == 1)
        && spares first last everySecond rest

theorem move_of_spares {first last n : Nat} {everySecond : Bool} {runs : List ShiftRun}
    (h : spares first last everySecond runs = true) (hfirst : first ≤ n) (hlast : n ≤ last)
    (heven : everySecond = true → n % 2 = first % 2) : move runs n = n := by
  induction runs with
  | nil => rfl
  | cons run rest ih =>
    rw [move]
    split
    · rfl
    · next hge =>
      simp only [spares, Bool.or_eq_true, Bool.and_eq_true, Nat.blt_eq, beq_iff_eq] at h
      rcases h with hafter | ⟨hrun, hrest⟩
      · omega
      · have hno : run.applies n = false := by
          rw [← Bool.not_eq_true]
          simp only [applies, Bool.and_eq_true, decide_eq_true_eq, beq_iff_eq]
          rintro ⟨⟨-, hle⟩, hstep⟩
          rcases hrun with hbefore | ⟨⟨hsecond, htwo⟩, hodd⟩
          · omega
          · have hsame := heven hsecond
            rw [htwo] at hstep
            omega
        rw [hno]
        exact ih hrest

/-- Are the images of a run characters which no run of the table moves any further? -/
def isFinal (runs : List ShiftRun) (run : ShiftRun) : Bool :=
  decide (0 ≤ run.first + run.shift)
    && (Nat.blt (run.last + run.shift).toNat 0xD800
      || Nat.blt 0xDFFF (run.first + run.shift).toNat
        && Nat.blt (run.last + run.shift).toNat 0x110000)
    && spares (run.first + run.shift).toNat (run.last + run.shift).toNat
      (run.step == 2 || run.first == run.last) runs

theorem move_of_isFinal {runs : List ShiftRun} {run : ShiftRun} (h : run.isFinal runs = true)
    {n : Nat} (hn : run.applies n = true) :
    move runs (n + run.shift).toNat = (n + run.shift).toNat ∧
      (n + run.shift).toNat < 0x110000 := by
  simp only [isFinal, Bool.and_eq_true, Bool.or_eq_true, decide_eq_true_eq, Nat.blt_eq] at h
  obtain ⟨⟨hshift, hchar⟩, hspares⟩ := h
  simp only [applies, Bool.and_eq_true, decide_eq_true_eq, beq_iff_eq] at hn
  obtain ⟨⟨hfirst, hlast⟩, hstep⟩ := hn
  constructor
  · apply move_of_spares hspares (by omega) (by omega)
    intro hsecond
    simp only [Bool.or_eq_true, beq_iff_eq] at hsecond
    rcases hsecond with htwo | hsingle
    · rw [htwo] at hstep
      omega
    · obtain rfl : n = run.first := by omega
      rfl
  · omega

end ShiftRun

namespace LetterCase

theorem lowerRuns_final : (lowerRuns.all (·.isFinal lowerRuns)) = true := by decide +kernel

theorem move_lowerRuns {n : Nat} (hn : n < 0x110000) :
    ShiftRun.move lowerRuns (ShiftRun.move lowerRuns n) = ShiftRun.move lowerRuns n ∧
      ShiftRun.move lowerRuns n < 0x110000 := by
  rcases ShiftRun.move_cases lowerRuns n with hsame | ⟨run, hm, happlies, heq⟩
  · rw [hsame]
    exact ⟨hsame, hn⟩
  · rw [heq]
    exact ShiftRun.move_of_isFinal (List.all_eq_true.mp lowerRuns_final run hm) happlies

theorem toNat_lowerChar (c : CodePoint) : (lowerChar c).toNat = ShiftRun.move lowerRuns c.toNat := by
  have hvalid := (move_lowerRuns c.toNat_lt).2
  rw [lowerChar, CodePoint.toNat_ofNat hvalid]

/-- The lower case of a character is alike it. -/
theorem alike_lowerChar (c : CodePoint) : alike (lowerChar c) c = true := by
  have hsame := (move_lowerRuns c.toNat_lt).1
  simp only [alike, caseKey, toNat_lowerChar, hsame, BEq.rfl]

/-- Can a character stand for another one in the lower case of a text? -/
structure Lowered (l c : CodePoint) : Prop where
  alike : alike l c = true
  plain : c ≠ 'Σ' → l = lowerChar c

/-- Without a dotted capital I, lower case goes character by character. -/
theorem lowerFrom_lowered {text : List CodePoint} (hi : .char 'İ' ∉ text) (before : List CodePoint) :
    List.Forall₂ Lowered (lowerFrom before text) text := by
  induction text generalizing before with
  | nil => exact .nil
  | cons c cs ih =>
    rw [List.mem_cons, not_or] at hi
    have hrest := ih hi.2 (c :: before)
    rw [lowerFrom]
    split
    · next hs =>
      subst hs
      refine .cons ⟨?_, fun hne => absurd rfl hne⟩ hrest
      split <;> decide
    · rw [if_neg (Ne.symm hi.1)]
      exact .cons ⟨alike_lowerChar c, fun _ => rfl⟩ hrest

theorem lower_lowered {text : List CodePoint} (hi : .char 'İ' ∉ text) :
    List.Forall₂ Lowered (lower text) text :=
  lowerFrom_lowered hi []

theorem lower_eq_nil {cs : List CodePoint} : lower cs = [] ↔ cs = [] := by
  cases cs with
  | nil => simp [lower, lowerFrom]
  | cons c cs =>
    simp only [lower, lowerFrom]
    split
    · simp
    · split <;> simp

/-- Does a stretch of the text stand for the term, character by character? -/
def StandsIn (term text : List CodePoint) : Prop :=
  ∃ stretch, stretch <:+: text ∧ List.Forall₂ (fun a b => alike a b = true) term stretch

/-- Does the term stand at a place of the text, character by character? -/
def StandsAt (term text : List CodePoint) (place : Nat) : Prop :=
  ∃ stretch, stretch <+: text.drop place ∧ List.Forall₂ (fun a b => alike a b = true) term stretch

/-- Is the lower case of a text one character for each of its characters, and for each one that is
alike a character of the term just this character? -/
structure Agree (term text : List CodePoint) : Prop where
  undotted : .char 'İ' ∉ text
  plain : ∀ t ∈ term, ∀ c ∈ text, alike t c = true → c ≠ 'Σ' ∧ lowerChar c = t

def isAscii (c : CodePoint) : Bool := c.toNat < 128

theorem caseKey_of_isAscii {c : CodePoint} (h : isAscii c = true) :
    caseKey c = (lowerChar c).toNat := by
  have hall : ∀ n < 128, caseKey (.ofNat n) = (lowerChar (.ofNat n)).toNat := by
    decide +kernel
  have hc := hall c.toNat (of_decide_eq_true h)
  rwa [CodePoint.ofNat_toNat] at hc

/-- English letters have one form in lower case and no variants. -/
theorem agree_of_ascii {term text : List CodePoint} (ht : term.all isAscii = true)
    (hl : term.map lowerChar = term) (hc : text.all isAscii = true) : Agree term text := by
  rw [List.all_eq_true] at ht hc
  have hlower : ∀ t ∈ term, lowerChar t = t :=
    List.map_inj_left.mp (hl.trans (List.map_id term).symm)
  constructor
  · intro hi
    exact absurd (hc _ hi) (by decide)
  · intro t htm c hcm halike
    rw [alike, beq_iff_eq, caseKey_of_isAscii (ht t htm), caseKey_of_isAscii (hc c hcm),
      hlower t htm] at halike
    refine ⟨?_, (CodePoint.toNat_inj.mp halike).symm⟩
    rintro rfl
    exact absurd (hc _ hcm) (by decide)

/-- A stretch of one of two lists that go together goes with the stretch in the same place. -/
theorem forall₂_infix {α β : Type} {R : α → β → Prop} {xs part : List α} {ys : List β}
    (h : List.Forall₂ R xs ys) (hp : part <:+: xs) :
    ∃ other, other <:+: ys ∧ List.Forall₂ R part other := by
  obtain ⟨front, back, rfl⟩ := hp
  have hplace := List.forall₂_take part.length (List.forall₂_drop front.length h)
  have hpart : ((front ++ part ++ back).drop front.length).take part.length = part := by simp
  rw [hpart] at hplace
  have hinfix : (ys.drop front.length).take part.length <:+: ys :=
    (List.take_prefix _ _).isInfix.trans (List.drop_suffix _ _).isInfix
  exact ⟨_, hinfix, hplace⟩

/-- What occurs in lower case stands in the text, unless there is a dotted capital I. -/
theorem standsIn_of_infix {term text : List CodePoint} (hi : .char 'İ' ∉ text)
    (h : term <:+: lower text) :
    StandsIn term text := by
  obtain ⟨stretch, hs, hf⟩ := forall₂_infix (lower_lowered hi) h
  exact ⟨stretch, hs, hf.imp fun _ _ hl => hl.alike⟩

theorem eq_of_lowered {term stretch image : List CodePoint}
    (ht : List.Forall₂ (fun a b => alike a b = true) term stretch)
    (hl : List.Forall₂ (fun c l => Lowered l c) stretch image)
    (hp : ∀ t ∈ term, ∀ c ∈ stretch, alike t c = true → c ≠ 'Σ' ∧ lowerChar c = t) :
    term = image := by
  induction ht generalizing image with
  | nil =>
    cases hl
    rfl
  | @cons t c term stretch halike _ ih =>
    cases hl with
    | cons hfirst hrest =>
      obtain ⟨hsigma, hlower⟩ := hp t List.mem_cons_self c List.mem_cons_self halike
      rw [hfirst.plain hsigma, hlower, ih hrest]
      intro t ht c hc
      exact hp t (List.mem_cons_of_mem _ ht) c (List.mem_cons_of_mem _ hc)

/-- What stands in the text occurs in lower case if the two agree on what a character is. -/
theorem infix_of_standsIn {term text : List CodePoint} (ha : Agree term text) (h : StandsIn term text) :
    term <:+: lower text := by
  obtain ⟨stretch, hs, ht⟩ := h
  have hflip : List.Forall₂ (fun c l => Lowered l c) text (lower text) :=
    (lower_lowered ha.undotted).flip
  obtain ⟨image, himage, hl⟩ := forall₂_infix hflip hs
  have hsame : term = image :=
    eq_of_lowered ht hl fun t hm c hc => ha.plain t hm c (hs.subset hc)
  rwa [hsame]

theorem beginsAlike_iff {term text : List CodePoint} :
    beginsAlike term text = true ↔
      ∃ stretch, stretch <+: text ∧ List.Forall₂ (fun a b => alike a b = true) term stretch := by
  induction term generalizing text with
  | nil => simp [beginsAlike]
  | cons t term ih =>
    cases text with
    | nil => simp [beginsAlike]
    | cons c text =>
      rw [beginsAlike, Bool.and_eq_true, ih]
      constructor
      · rintro ⟨ht, stretch, hs, hf⟩
        exact ⟨c :: stretch, (List.prefix_cons_inj c).mpr hs, .cons ht hf⟩
      · rintro ⟨stretch, hs, hf⟩
        cases hf with
        | cons hfirst hrest =>
          obtain ⟨rfl, hprefix⟩ := List.cons_prefix_cons.mp hs
          exact ⟨hfirst, _, hprefix, hrest⟩

theorem standsAt_iff {term text : List CodePoint} {place : Nat} :
    StandsAt term text place ↔ beginsAlike term (text.drop place) = true :=
  beginsAlike_iff.symm

theorem StandsAt.length_le {term text : List CodePoint} {place : Nat} (h : StandsAt term text place) :
    term.length ≤ (text.drop place).length := by
  obtain ⟨stretch, hs, hf⟩ := h
  rw [hf.length_eq]
  exact hs.length_le

theorem not_standsIn_nil {term : List CodePoint} (hn : term ≠ []) : ¬StandsIn term [] := by
  rintro ⟨stretch, hs, hf⟩
  rw [List.infix_nil.mp hs] at hf
  exact hn (List.forall₂_nil_right_iff.mp hf)

/-- A term stands in a text at its beginning, or behind its first character. -/
theorem standsIn_cons {term : List CodePoint} (c : CodePoint) (cs : List CodePoint) :
    StandsIn term (c :: cs) ↔ beginsAlike term (c :: cs) = true ∨ StandsIn term cs := by
  simp only [StandsIn, beginsAlike_iff, List.infix_cons_iff, or_and_right, exists_or]

/-- Does no other letter have the code point as its lower case, nor any count as a variant of it, and
is it no letter of another one itself? -/
def isSingle (n : Nat) : Bool :=
  lowerRuns.all (fun run => !run.applies n
    && (Nat.blt (run.last + run.shift).toNat n || decide (n < run.first + run.shift)))
    && families.all fun pair => pair.1 != n && pair.2 != n

theorem eq_of_move {n m : Nat} (hn : isSingle n = true)
    (h : ShiftRun.move lowerRuns m = n) : m = n := by
  simp only [isSingle, Bool.and_eq_true, List.all_eq_true, Bool.or_eq_true, Nat.blt_eq,
    decide_eq_true_eq] at hn
  rcases ShiftRun.move_cases lowerRuns m with hsame | ⟨run, hm, happlies, heq⟩
  · exact hsame.symm.trans h
  · have himage := (hn.1 run hm).2
    simp only [ShiftRun.applies, Bool.and_eq_true, decide_eq_true_eq] at happlies
    omega

theorem move_of_isSingle {n : Nat} (hn : isSingle n = true) : ShiftRun.move lowerRuns n = n := by
  simp only [isSingle, Bool.and_eq_true, List.all_eq_true] at hn
  rcases ShiftRun.move_cases lowerRuns n with hsame | ⟨run, hm, happlies, -⟩
  · exact hsame
  · have hno := (hn.1 run hm).1
    rw [happlies] at hno
    cases hno

/-- A character that is no letter in this sense is alike itself only. -/
theorem alike_of_isSingle {c d : CodePoint} (hc : isSingle c.toNat = true) :
    alike c d = true ↔ d = c := by
  have hfamilies : ∀ pair ∈ families, pair.1 ≠ c.toNat ∧ pair.2 ≠ c.toNat := by
    simp only [isSingle, Bool.and_eq_true, List.all_eq_true, bne_iff_ne] at hc
    exact hc.2
  have hkey : caseKey c = c.toNat := by
    have hnone : families.lookup c.toNat = none := by
      rw [List.lookup_eq_none_iff]
      intro pair hm
      exact bne_iff_ne.mpr (hfamilies pair hm).1.symm
    simp only [caseKey, move_of_isSingle hc, hnone, Option.getD_none]
  rw [alike, beq_iff_eq, hkey]
  constructor
  · intro h
    simp only [caseKey] at h
    cases hl : families.lookup (ShiftRun.move lowerRuns d.toNat) with
    | none =>
      rw [hl] at h
      exact CodePoint.toNat_inj.mp (eq_of_move hc h.symm)
    | some head =>
      rw [hl] at h
      obtain ⟨front, rest, hsplit, -⟩ := List.lookup_eq_some_iff.mp hl
      have hm : (ShiftRun.move lowerRuns d.toNat, head) ∈ families := by
        rw [hsplit]
        exact List.mem_append_right front List.mem_cons_self
      exact absurd h.symm (hfamilies _ hm).2
  · rintro rfl
    exact hkey.symm

end LetterCase

end SearchAppliance.Text
