import SearchAppliance.Text.Basic
import SearchAppliance.Text.WordChar

namespace SearchAppliance.Text

namespace RangeTable

/-- Does a table cover every code point from `first` to `last`? Ranges may follow each other without
a gap. -/
def spans : RangeTable → Nat → Nat → Bool
  | [], _, _ => false
  | (low, high) :: rest, first, last =>
    if first < low then false else last ≤ high || spans rest (max first (high + 1)) last

theorem covers_of_spans {table : RangeTable} {first last n : Nat}
    (h : table.spans first last = true) (hfirst : first ≤ n) (hlast : n ≤ last) :
    table.covers n = true := by
  induction table generalizing first with
  | nil => cases h
  | cons range rest ih =>
    obtain ⟨low, high⟩ := range
    rw [spans] at h
    split at h
    · cases h
    · next hlow =>
      have hn : ¬n < low := by omega
      rw [covers, if_neg hn, Bool.or_eq_true, decide_eq_true_eq]
      by_cases hhigh : n ≤ high
      · exact Or.inl hhigh
      · right
        rw [Bool.or_eq_true, decide_eq_true_eq] at h
        rcases h with h | h
        · omega
        · exact ih h (by omega)

theorem exists_range {table : RangeTable} {n : Nat} (h : table.covers n = true) :
    ∃ range ∈ table, range.1 ≤ n ∧ n ≤ range.2 := by
  induction table with
  | nil => cases h
  | cons range rest ih =>
    obtain ⟨low, high⟩ := range
    rw [covers] at h
    split at h
    · cases h
    · next hlow =>
      rw [Bool.or_eq_true, decide_eq_true_eq] at h
      rcases h with h | h
      · exact ⟨(low, high), List.mem_cons_self, by omega, h⟩
      · obtain ⟨found, hm, hn⟩ := ih h
        exact ⟨found, List.mem_cons_of_mem _ hm, hn⟩

end RangeTable

/-- The code points with which a name may begin. -/
def xmlNameStarts : RangeTable :=
  [(0x3A, 0x3A), (0x41, 0x5A), (0x5F, 0x5F), (0x61, 0x7A), (0xC0, 0xD6), (0xD8, 0xF6), (0xF8, 0x2FF),
    (0x370, 0x37D), (0x37F, 0x1FFF), (0x200C, 0x200D), (0x2070, 0x218F), (0x2C00, 0x2FEF),
    (0x3001, 0xD7FF), (0xF900, 0xFDCF), (0xFDF0, 0xFFFD), (0x10000, 0xEFFFF)]

/-- The code points of which a name may consist: those with which it may begin, and hyphen, point,
digits, the middle dot, combining marks and two ties. -/
def xmlNameChars : RangeTable :=
  [(0x2D, 0x2E), (0x30, 0x39), (0x3A, 0x3A), (0x41, 0x5A), (0x5F, 0x5F), (0x61, 0x7A), (0xB7, 0xB7),
    (0xC0, 0xD6), (0xD8, 0xF6), (0xF8, 0x2FF), (0x300, 0x36F), (0x370, 0x37D), (0x37F, 0x1FFF),
    (0x200C, 0x200D), (0x203F, 0x2040), (0x2070, 0x218F), (0x2C00, 0x2FEF), (0x3001, 0xD7FF),
    (0xF900, 0xFDCF), (0xFDF0, 0xFFFD), (0x10000, 0xEFFFF)]

/-- Is it a name of XML 1.0? -/
def isXmlName (cs : List Char) : Bool :=
  match cs with
  | [] => false
  | c :: rest => xmlNameStarts.covers c.toNat && rest.all fun d => xmlNameChars.covers d.toNat

/-- The word characters that no name has: two ordinal signs, the micro sign, a tie and the circled
letters. -/
def unnamed : RangeTable :=
  [(0xAA, 0xAA), (0xB5, 0xB5), (0xBA, 0xBA), (0x2054, 0x2054), (0x24B6, 0x24E9)]

theorem wordChar_cases {c : Char} (h : WordChar.isWordChar c = true) :
    xmlNameChars.covers c.toNat = true ∨ unnamed.covers c.toNat = true := by
  have htable : ∀ range ∈ WordChar.ranges,
      (xmlNameChars.spans range.1 range.2 || unnamed.spans range.1 range.2) = true := by
    decide +kernel
  obtain ⟨range, hm, hfirst, hlast⟩ := RangeTable.exists_range h
  rcases Bool.or_eq_true_iff.mp (htable range hm) with hs | hs
  · exact Or.inl (RangeTable.covers_of_spans hs hfirst hlast)
  · exact Or.inr (RangeTable.covers_of_spans hs hfirst hlast)

end SearchAppliance.Text
