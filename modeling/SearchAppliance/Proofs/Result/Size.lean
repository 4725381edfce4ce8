import SearchAppliance.Proofs.Number.DecimalText
import SearchAppliance.Proofs.Result.Contribution
import SearchAppliance.Text.Words

namespace SearchAppliance

open Number (Numeral digitLimit readField positional signed)
open Settings (PageOptions)
open Text.DecimalDigit (value? zeros)

namespace Number

/-- The digits of all scripts are neither blanks nor underscores. -/
theorem digit_visible : ∀ first ∈ zeros, ∀ v < 10,
    Text.isBlank (.ofNat (first + v)) = false ∧ CodePoint.ofNat (first + v) ≠ '_' := by
  decide +kernel

/-- Neither blanks nor underscores are read, nor the end of a line after the digits. -/
theorem visible_of_readField {field value : Text} {n : Int} (h : readField field value = .ok n) :
    ∀ c ∈ value.toList, Text.isBlank c = false ∧ c ≠ '_' := by
  obtain ⟨sign, hsign, digits, values, hsplit, -, -, hvalues, -⟩ := readField_iff.mp h
  intro c hc
  rw [hsplit] at hc
  rcases List.mem_append.mp hc with hc | hc
  · simp only [Numeral.signs, List.mem_cons, List.not_mem_nil, or_false] at hsign
    have hsigns : c = '+' ∨ c = '-' := by
      rcases hsign with rfl | rfl | rfl
      · cases hc
      · exact Or.inl (List.mem_singleton.mp hc)
      · exact Or.inr (List.mem_singleton.mp hc)
    rcases hsigns with rfl | rfl <;> decide
  · have hmem : value? c ∈ values.map some := hvalues ▸ List.mem_map_of_mem hc
    obtain ⟨v, -, hv⟩ := List.mem_map.mp hmem
    obtain ⟨hlt, first, hfirst, hcode⟩ := Text.DecimalDigit.value?_eq_some.mp hv.symm
    rw [← CodePoint.ofNat_toNat c, hcode]
    exact digit_visible first hfirst v hlt

end Number

/-- Whole kilobytes have the sign of the size, if they are not zero. -/
theorem kilobytes_towards_zero (size : Int) :
    (kilobytes size).natAbs = size.natAbs / 1024 ∧ (size ≤ 0 → kilobytes size ≤ 0) ∧
      (0 ≤ size → 0 ≤ kilobytes size) := by
  refine ⟨Int.natAbs_tdiv size 1024, ?_, fun h => Int.tdiv_nonneg h (by decide)⟩
  intro h
  have hneg : (-size).tdiv 1024 = -size.tdiv 1024 := Int.neg_tdiv size 1024
  have hpos : 0 ≤ (-size).tdiv 1024 := Int.tdiv_nonneg (by omega) (by decide)
  rw [kilobytes]
  omega

theorem kilobyteText_eq (size : Int) : kilobyteText size = toString (kilobytes size) ++ "k" := rfl

theorem Digest.features_eq (d : Digest) :
    d.features = "<HAS><L/><C SZ=\"" ++ kilobyteText d.size ++ "\" CID=\"" ++
      Text.Escape.attr (d.documentId.getD "") ++ "\" ENC=\"UTF-8\"/></HAS>" := rfl

/-- Zero has no minus before it. -/
theorem kilobyteText_ne (size : Int) : kilobyteText size ≠ "-0k" := by
  intro h
  have htext : (toString (kilobytes size)).toList = ['-', '0'] := by
    have hlist : (toString (kilobytes size)).toList ++ ['k'] = ['-', '0'] ++ ['k'] := by
      rw [kilobyteText_eq] at h
      exact String.toList_append.symm.trans (congrArg String.toList h)
    exact List.append_cancel_right hlist
  have hread := Number.ofText?_toString (kilobytes size)
  rw [Text.toList_ofString, htext] at hread
  have hzero : kilobytes size = 0 := (Option.some.inj hread).symm
  rw [hzero] at htext
  exact absurd htext (by decide)

namespace Digest

/-- A field is read as the integer that its decimal digits spell, in any scripts and with a sign or
none, and the last size stands in the features in kilobytes. -/
theorem integers_exact (field value : Text) :
    (∀ n, readField field value = .ok n ↔
      ∃ sign ∈ Numeral.signs, ∃ digits values, value.toList = sign ++ digits ∧ 1 ≤ digits.length ∧
        digits.length ≤ digitLimit ∧ digits.map value? = values.map some ∧
        n = signed sign (positional values)) ∧
    (∀ c v, value? c = some v ↔ v < 10 ∧ ∃ first ∈ zeros, c.toNat = first + v) ∧
    (∀ n, readField field value = .ok n → ∀ c ∈ value.toList, Text.isBlank c = false ∧ c ≠ '_') ∧
    (∀ n : Int, (Nat.toDigits 10 n.natAbs).length ≤ digitLimit →
      readField field (toString n : String) = .ok n) ∧
    ∀ options fields last n, (ofFields options fields).outcome = .ok last →
      lastUsable .size fields.entries = some value → readField Field.size.name value = .ok n →
      ∃ count : Int, count.natAbs = n.natAbs / 1024 ∧ (n ≤ 0 → count ≤ 0) ∧ (0 ≤ n → 0 ≤ count) ∧
        last.features = "<HAS><L/><C SZ=\"" ++ (toString count ++ "k" : String) ++ "\" CID=\"" ++
          Text.Escape.attr (last.documentId.getD "") ++ "\" ENC=\"UTF-8\"/></HAS>" ∧
        toString count ++ "k" ≠ "-0k" := by
  refine ⟨fun _ => Number.readField_iff, fun _ _ => Text.DecimalDigit.value?_eq_some,
    fun _ => Number.visible_of_readField, fun _ h => Number.readField_toString h field, ?_⟩
  intro options fields last n hlast hvalue hread
  have hsize : last.size = n := by
    rw [ofFields_gathered hlast, gathered, hvalue, Option.bind_some, numberOf?, hread]
    rfl
  obtain ⟨hcount, hneg, hpos⟩ := kilobytes_towards_zero n
  refine ⟨kilobytes n, hcount, hneg, hpos, ?_, ?_⟩
  · rw [features_eq, hsize, kilobyteText_eq]
  · rw [← kilobyteText_eq]
    exact kilobyteText_ne n

/-- A size of less than a kilobyte below zero, in digits of another script, is shown as zero. -/
theorem integers_exact_arabic :
    let fields : Fields := [("id", ["a"]), ("size_i", ["-١٠٢٣"])]
    let last : Digest := { documentId := some "a", size := -1023 }
    (ofFields {} fields).outcome = .ok last ∧
      lastUsable .size fields.entries = some ("-١٠٢٣" : Text) ∧ readField "size_i" "-١٠٢٣" = .ok (-1023) ∧
      last.features = "<HAS><L/><C SZ=\"0k\" CID=\"a\" ENC=\"UTF-8\"/></HAS>" ∧
      readField "size_i" (toString (-1024 : Int) : String) = .ok (-1024) := by
  intro fields last
  have hlast : (ofFields {} fields).outcome = .ok last := rfl
  have hvalue : lastUsable .size fields.entries = some ("-١٠٢٣" : Text) := by decide
  have hread : readField "size_i" "-١٠٢٣" = .ok (-1023) := rfl
  obtain ⟨-, -, -, hback, hshown⟩ := integers_exact "size_i" "-١٠٢٣"
  obtain ⟨count, hcount, -, -, hfeatures, -⟩ := hshown {} fields last (-1023) hlast hvalue hread
  refine ⟨hlast, hvalue, hread, ?_, hback (-1024) (by decide)⟩
  rw [hfeatures, Int.natAbs_eq_zero.mp hcount]
  decide

end Digest

end SearchAppliance
