import SearchAppliance.Number.Numeral

namespace SearchAppliance

namespace Text.DecimalDigit

/-- Two scripts share no digit. -/
theorem zeros_apart : ∀ a ∈ zeros, ∀ b ∈ zeros, a < b + 10 → b < a + 10 → a = b := by
  decide +kernel

/-- A character is a decimal digit if it is one of the ten that begin with the zero of a script; its
value is its distance from that zero. -/
theorem value?_eq_some {c : CodePoint} {v : Nat} :
    value? c = some v ↔ v < 10 ∧ ∃ first ∈ zeros, c.toNat = first + v := by
  rw [value?, Option.map_eq_some_iff]
  constructor
  · rintro ⟨first, hfind, rfl⟩
    have hmem := List.mem_of_find?_eq_some hfind
    have hrange := List.find?_some hfind
    simp only [Bool.and_eq_true, decide_eq_true_eq] at hrange
    exact ⟨by omega, first, hmem, by omega⟩
  · rintro ⟨hv, first, hmem, hc⟩
    have hsome : (zeros.find? fun z => z ≤ c.toNat && c.toNat < z + 10).isSome = true := by
      rw [List.find?_isSome]
      refine ⟨first, hmem, ?_⟩
      simp only [Bool.and_eq_true, decide_eq_true_eq]
      omega
    obtain ⟨other, hfind⟩ := Option.isSome_iff_exists.mp hsome
    have hrange := List.find?_some hfind
    simp only [Bool.and_eq_true, decide_eq_true_eq] at hrange
    have hsame : other = first :=
      zeros_apart other (List.mem_of_find?_eq_some hfind) first hmem (by omega) (by omega)
    exact ⟨other, hfind, by omega⟩

theorem mapM_value? {cs : List CodePoint} {values : List Nat} :
    cs.mapM value? = some values ↔ cs.map value? = values.map some := by
  induction cs generalizing values with
  | nil => cases values <;> simp
  | cons c cs ih =>
    rw [List.mapM_cons, List.map_cons]
    cases value? c with
    | none => cases values <;> simp
    | some v =>
      cases values with
      | nil => cases cs.mapM value? <;> simp
      | cons w values =>
        rw [List.map_cons, List.cons.injEq, ← ih]
        cases cs.mapM value? <;> simp

end Text.DecimalDigit

namespace Number

open Text.DecimalDigit (value?)

/-- The least number with more digits than a limit. -/
def powerOfTen (digits : Nat) : Nat := Nat.pow 10 digits

/-- The number that decimal digits stand for by their places, the last one counting as it is. -/
def positional : List Nat → Nat
  | [] => 0
  | d :: rest => d * powerOfTen rest.length + positional rest

theorem foldl_positional (m : Nat) (values : List Nat) :
    values.foldl (fun m d => 10 * m + d) m = m * powerOfTen values.length + positional values := by
  induction values generalizing m with
  | nil => exact (Nat.mul_one m).symm
  | cons d rest ih =>
    have hpower : powerOfTen (d :: rest).length = powerOfTen rest.length * 10 := rfl
    rw [List.foldl_cons, ih, positional, hpower, Nat.add_mul, Nat.mul_comm 10 m, Nat.mul_assoc,
      Nat.mul_comm 10, Nat.add_assoc]

theorem magnitude_eq (negative : Bool) (values : List Nat) :
    Numeral.magnitude ⟨negative, values⟩ = positional values := by
  rw [Numeral.magnitude, foldl_positional, Nat.zero_mul, Nat.zero_add]

namespace Numeral

/-- The signs that may stand before digits. -/
def signs : List (List CodePoint) := [[], [.char '+'], [.char '-']]

theorem digits?_eq_some {cs : List CodePoint} {values : List Nat} :
    digits? cs = some values ↔ cs ≠ [] ∧ cs.map value? = values.map some := by
  rw [digits?, ← Text.DecimalDigit.mapM_value?]
  cases cs with
  | nil => simp
  | cons c cs => simp

/-- No sign is a digit. -/
theorem digits?_sign {c : CodePoint} (hc : c = '+' ∨ c = '-') (cs : List CodePoint) :
    digits? (c :: cs) = none := by
  have hvalue : value? c = none := by
    rcases hc with rfl | rfl <;> decide
  rw [digits?, if_neg (by simp), List.mapM_cons, hvalue]
  rfl

theorem ofSignedList?_eq_some {cs : List CodePoint} {n : Numeral} :
    ofSignedList? cs = some n ↔ ∃ sign ∈ signs, ∃ digits, cs = sign ++ digits ∧ digits ≠ [] ∧
      digits.map value? = n.digits.map some ∧ n.negative = decide (sign = [.char '-']) := by
  obtain ⟨negative, values⟩ := n
  have hread (known : Bool) (digits : List CodePoint) :
      (digits? digits).map (Numeral.mk known) = some ⟨negative, values⟩ ↔
        digits ≠ [] ∧ digits.map value? = values.map some ∧ negative = known := by
    rw [Option.map_eq_some_iff]
    constructor
    · rintro ⟨_, hd, he⟩
      cases he
      obtain ⟨hne, hv⟩ := digits?_eq_some.mp hd
      exact ⟨hne, hv, rfl⟩
    · rintro ⟨hne, hv, rfl⟩
      exact ⟨values, digits?_eq_some.mpr ⟨hne, hv⟩, rfl⟩
  constructor
  · intro h
    unfold ofSignedList? ofList? at h
    split at h
    · next rest => exact ⟨[.char '+'], by simp [signs], rest, rfl, (hread false rest).mp h⟩
    · split at h
      · next rest _ => exact ⟨[.char '-'], by simp [signs], rest, rfl, (hread true rest).mp h⟩
      · exact ⟨[], by simp [signs], cs, rfl, (hread false cs).mp h⟩
  · rintro ⟨sign, hsign, digits, rfl, hdigits⟩
    simp only [signs, List.mem_cons, List.not_mem_nil, or_false] at hsign
    rcases hsign with rfl | rfl | rfl
    · have hnot (c : CodePoint) (hc : c = '+' ∨ c = '-') (rest : List CodePoint) :
          [] ++ digits ≠ c :: rest := by
        rintro rfl
        have hnone := hread (decide (([] : List CodePoint) = [.char '-'])) (c :: rest)
        rw [digits?_sign hc] at hnone
        exact absurd (hnone.mpr hdigits) nofun
      unfold ofSignedList? ofList?
      split
      · next h => exact absurd h (hnot '+' (Or.inl rfl) _)
      · split
        · next h => exact absurd h (hnot '-' (Or.inr rfl) _)
        · exact (hread false digits).mpr hdigits
    · exact (hread false digits).mpr hdigits
    · exact (hread true digits).mpr hdigits

end Numeral

theorem readField_eq_ok {field value : Text} {n : Int} : readField field value = .ok n ↔
    ∃ numeral, Numeral.ofSignedList? value.toList = some numeral ∧
      numeral.digits.length ≤ digitLimit ∧ numeral.toInt = n := by
  rw [readField]
  cases hn : Numeral.ofSignedList? value.toList with
  | none => simp
  | some numeral =>
    simp only [Option.some.injEq, exists_eq_left', Numeral.value]
    split
    · next hlong => simp [Nat.not_le.mpr hlong]
    · next hshort => simp [Nat.not_lt.mp hshort]

theorem readField_of_none {field value : Text}
    (h : Numeral.ofSignedList? value.toList = none) :
    readField field value = .error (.malformedField field value) := by
  rw [readField, h]

theorem readField_of_overlong {field value : Text} {n : Numeral}
    (h : Numeral.ofSignedList? value.toList = some n) (hlong : digitLimit < n.digits.length) :
    readField field value = .error (.numeralTooLong n.digits.length) := by
  rw [readField, h]
  exact if_pos hlong

/-- The number of a magnitude with a sign before it. -/
def signed (sign : List CodePoint) (magnitude : Nat) : Int :=
  if sign = [.char '-'] then -magnitude else magnitude

/-- A field holds an integer exactly if it is a sign, or none, and digits, not more than are read. -/
theorem readField_iff {field value : Text} {n : Int} : readField field value = .ok n ↔
    ∃ sign ∈ Numeral.signs, ∃ digits values, value.toList = sign ++ digits ∧ 1 ≤ digits.length ∧
      digits.length ≤ digitLimit ∧ digits.map value? = values.map some ∧
      n = signed sign (positional values) := by
  rw [readField_eq_ok]
  constructor
  · rintro ⟨⟨negative, values⟩, hread, hlimit, rfl⟩
    obtain ⟨sign, hsign, digits, hsplit, hne, hvalues, rfl⟩ := Numeral.ofSignedList?_eq_some.mp hread
    have hlength : digits.length = values.length := by
      simpa only [List.length_map] using congrArg List.length hvalues
    refine ⟨sign, hsign, digits, values, hsplit, List.length_pos_iff.mpr hne,
      Nat.le_trans (Nat.le_of_eq hlength) hlimit, hvalues, ?_⟩
    simp only [Numeral.toInt, magnitude_eq, signed, decide_eq_true_eq]
  · rintro ⟨sign, hsign, digits, values, hsplit, hpos, hlimit, hvalues, rfl⟩
    have hlength : digits.length = values.length := by
      simpa only [List.length_map] using congrArg List.length hvalues
    refine ⟨⟨decide (sign = [.char '-']), values⟩, Numeral.ofSignedList?_eq_some.mpr ⟨sign, hsign, digits,
      hsplit, List.length_pos_iff.mp hpos, hvalues, rfl⟩, ?_, ?_⟩
    · exact Nat.le_trans (Nat.le_of_eq hlength.symm) hlimit
    · simp only [Numeral.toInt, magnitude_eq, signed, decide_eq_true_eq]

end Number

end SearchAppliance
