import SearchAppliance.Proofs.Number.Numeral

namespace SearchAppliance.Number

/-- The integer that a text stands for: digits after an optional minus. -/
def ofText? (cs : List CodePoint) : Option Int := (Numeral.ofList? cs).map Numeral.toInt

theorem value?_of_isDigit {c : Char} (h : c.isDigit = true) :
    Text.DecimalDigit.value? (c : CodePoint) = some (c.toNat - 48) := by
  have hrange : 48 ≤ c.toNat ∧ c.toNat ≤ 57 := Char.isDigit_iff_toNat.mp h
  refine Text.DecimalDigit.value?_eq_some.mpr ⟨by omega, 48, List.mem_cons_self, ?_⟩
  rw [CodePoint.toNat_char]
  omega

theorem digits?_of_isDigit {cs : List Char} (hne : cs ≠ []) (h : ∀ c ∈ cs, c.isDigit = true) :
    Numeral.digits? (cs.map .char) = some (cs.map fun c => c.toNat - 48) := by
  refine Numeral.digits?_eq_some.mpr ⟨by simpa using hne, ?_⟩
  rw [List.map_map, List.map_map]
  exact List.map_congr_left fun c hc => value?_of_isDigit (h c hc)

/-- Digits without a sign are a numeral that is not negative. -/
theorem ofList?_of_isDigit {cs : List Char} (hne : cs ≠ []) (h : ∀ c ∈ cs, c.isDigit = true) :
    Numeral.ofList? (cs.map .char) = some ⟨false, cs.map fun c => c.toNat - 48⟩ := by
  unfold Numeral.ofList?
  split
  · next rest hcs =>
    have hm : CodePoint.char '-' ∈ cs.map .char := hcs ▸ List.mem_cons_self
    exact absurd (h '-' (Text.char_mem_map.mp hm)) (by decide)
  · rw [digits?_of_isDigit hne h]
    rfl

theorem ofSignedList?_of_isDigit {cs : List Char} (hne : cs ≠ [])
    (h : ∀ c ∈ cs, c.isDigit = true) :
    Numeral.ofSignedList? (cs.map .char) = some ⟨false, cs.map fun c => c.toNat - 48⟩ := by
  unfold Numeral.ofSignedList?
  split
  · next rest hcs =>
    have hm : CodePoint.char '+' ∈ cs.map .char := hcs ▸ List.mem_cons_self
    exact absurd (h '+' (Text.char_mem_map.mp hm)) (by decide)
  · exact ofList?_of_isDigit hne h

/-- Nines are read as such, with or without leave for a plus sign. -/
theorem read_nines {n : Nat} (h : n ≠ 0) :
    Numeral.ofList? (List.replicate n '9') = some ⟨false, List.replicate n 9⟩ ∧
      Numeral.ofSignedList? (List.replicate n '9') = some ⟨false, List.replicate n 9⟩ := by
  have hmap : List.replicate n (CodePoint.char '9') = (List.replicate n '9').map .char :=
    List.map_replicate.symm
  have hne : List.replicate n '9' ≠ [] := by simpa using h
  have hdigits : ∀ c ∈ List.replicate n '9', c.isDigit = true := by
    intro c hc
    rw [List.eq_of_mem_replicate hc]
    rfl
  rw [hmap, ofList?_of_isDigit hne hdigits, ofSignedList?_of_isDigit hne hdigits,
    List.map_replicate]
  exact ⟨rfl, rfl⟩

theorem isDigit_of_mem_decimal {n : Nat} {c : Char} (h : c ∈ Nat.toDigits 10 n) :
    c.isDigit = true :=
  Nat.isDigit_of_mem_toDigits (by decide) (by decide) h

theorem digits?_decimal (n : Nat) :
    Numeral.digits? ((Nat.toDigits 10 n).map .char) =
      some ((Nat.toDigits 10 n).map fun c => c.toNat - 48) :=
  digits?_of_isDigit Nat.toDigits_ne_nil fun _ => isDigit_of_mem_decimal

theorem magnitude_decimal (negative : Bool) (n : Nat) :
    Numeral.magnitude ⟨negative, (Nat.toDigits 10 n).map fun c => c.toNat - 48⟩ = n := by
  rw [Numeral.magnitude, List.foldl_map]
  exact Nat.ofDigitChars_ten_toDigits

theorem toList_toString (n : Int) :
    (toString n).toList =
      if n < 0 then '-' :: Nat.toDigits 10 n.natAbs else Nat.toDigits 10 n.natAbs := by
  rw [Int.toString_eq_repr, Int.repr_eq_if]
  rcases Int.lt_or_le n 0 with h | h
  · rw [if_neg (by omega), if_pos h, show (-n).toNat = n.natAbs by omega]
    simp
  · rw [if_pos h, if_neg (by omega), show n.toNat = n.natAbs by omega]
    simp

/-- Reading the text of an integer gives it back. -/
theorem ofText?_toString (n : Int) : ofText? (toString n : Text).toList = some n := by
  rw [Text.toList_ofString, toList_toString]
  rcases Int.lt_or_le n 0 with h | h
  · rw [if_pos h, ofText?, List.map_cons, Numeral.ofList?, digits?_decimal]
    simp only [Option.map_some, Numeral.toInt, magnitude_decimal, if_true, Option.some.injEq]
    omega
  · rw [if_neg (by omega), ofText?,
      ofList?_of_isDigit Nat.toDigits_ne_nil fun _ => isDigit_of_mem_decimal]
    simp only [Option.map_some, Numeral.toInt, magnitude_decimal, Bool.false_eq_true, if_false,
      Option.some.injEq]
    omega

/-- Reading a field undoes the writing of an integer that has no more digits than are read. -/
theorem readField_toString {n : Int} (h : (Nat.toDigits 10 n.natAbs).length ≤ digitLimit)
    (field : Text) : readField field (toString n) = .ok n := by
  have hvalues := (Numeral.digits?_eq_some.mp (digits?_decimal n.natAbs)).2
  have hmagnitude := (magnitude_eq false _).symm.trans (magnitude_decimal false n.natAbs)
  have hpos : 1 ≤ ((Nat.toDigits 10 n.natAbs).map CodePoint.char).length := by
    rw [List.length_map]
    exact List.length_pos_iff.mpr Nat.toDigits_ne_nil
  rw [← List.length_map CodePoint.char] at h
  rw [readField_iff]
  by_cases hn : n < 0
  · refine ⟨[.char '-'], by simp [Numeral.signs], _, _, ?_, hpos, h, hvalues, ?_⟩
    · rw [Text.toList_ofString, toList_toString, if_pos hn]
      rfl
    · rw [hmagnitude, signed, if_pos rfl]
      omega
  · refine ⟨[], by simp [Numeral.signs], _, _, ?_, hpos, h, hvalues, ?_⟩
    · rw [Text.toList_ofString, toList_toString, if_neg hn]
      rfl
    · rw [hmagnitude, signed, if_neg (by simp)]
      omega

theorem mem_toString {n : Int} {c : Char} (h : c ∈ (toString n).toList) :
    c = '-' ∨ c.isDigit = true := by
  rw [toList_toString] at h
  split at h
  · exact (List.mem_cons.mp h).imp_right isDigit_of_mem_decimal
  · exact Or.inr (isDigit_of_mem_decimal h)

theorem not_mem_toString (n : Int) {c : Char} (hm : c ≠ '-') (hd : c.isDigit = false) :
    .char c ∉ (toString n : Text).toList := by
  intro h
  rcases mem_toString (Text.char_mem_map.mp h) with he | he
  · exact hm he
  · rw [hd] at he
    cases he

theorem toString_ne_empty (n : Int) : toString n ≠ "" := by
  intro h
  have hnil := congrArg String.toList h
  rw [toList_toString] at hnil
  split at hnil
  · cases hnil
  · exact Nat.toDigits_ne_nil hnil

/-- The least number that is not written. -/
def numeralBound : Nat := powerOfTen digitLimit

theorem length_repr_le_iff {n limit : Nat} (hl : 0 < limit) :
    n.repr.length ≤ limit ↔ n < powerOfTen limit :=
  Nat.length_repr_le_iff hl

theorem powerOfTen_mono {i j : Nat} (h : i ≤ j) : powerOfTen i ≤ powerOfTen j :=
  Nat.pow_le_pow_right (by decide) h

theorem thousand_lt_numeralBound : 1000 < numeralBound :=
  Nat.lt_of_lt_of_le (by decide) (powerOfTen_mono (by decide : 4 ≤ digitLimit))

theorem length_toString_natAbs (n : Int) :
    digitLimit < (toString n.natAbs).length ↔ numeralBound ≤ n.natAbs := by
  have hfit := @length_repr_le_iff n.natAbs digitLimit (by decide)
  rw [numeralBound, Nat.toString_eq_repr]
  omega

/-- An integer is written exactly if its magnitude stays below the limit. -/
theorem write_eq_ok {n : Int} {t : String} :
    write n = .ok t ↔ n.natAbs < numeralBound ∧ toString n = t := by
  have hlen := length_toString_natAbs n
  unfold write
  split
  · next hlong => simp [Nat.not_lt.mpr (hlen.mp hlong)]
  · next hshort =>
    have hfit : n.natAbs < numeralBound := by omega
    simp [hfit]

theorem write_of_lt {n : Int} (h : n.natAbs < numeralBound) : write n = .ok (toString n) :=
  write_eq_ok.mpr ⟨h, rfl⟩

theorem write_eq_error {n : Int} {cause : Failure} :
    write n = .error cause ↔ numeralBound ≤ n.natAbs ∧ cause = .numberTooLong := by
  have hlen := length_toString_natAbs n
  unfold write
  split
  · next hlong => simp [hlen.mp hlong, eq_comm]
  · next hshort => simpa using fun h => absurd (hlen.mpr h) hshort

end SearchAppliance.Number
