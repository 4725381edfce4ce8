import Mathlib.Tactic.Common
import SearchAppliance.Proofs.Calendar.HeaderDate
import SearchAppliance.Proofs.Outcome
import SearchAppliance.Proofs.Text.Entity
import SearchAppliance.Proofs.Text.Percent
import SearchAppliance.Text.Basic

namespace SearchAppliance

namespace Text

/-- The code points that may stand in an XML document. -/
def xmlRanges : RangeTable :=
  [(0x9, 0xA), (0xD, 0xD), (0x20, 0xD7FF), (0xE000, 0xFFFD), (0x10000, 0x10FFFF)]

def isXmlChar (c : CodePoint) : Bool := xmlRanges.covers c.toNat

/-- May all characters of a text stand in an XML document? -/
def isXmlText (text : Text) : Bool := text.toList.all isXmlChar

theorem isXmlText_append (a b : Text) : isXmlText (a ++ b) = (isXmlText a && isXmlText b) := by
  rw [isXmlText, Text.toList_append, List.all_append]
  rfl

theorem isXmlText_ofString {s : String} :
    isXmlText s = true ↔ ∀ c ∈ s.toList, isXmlChar c = true := by
  simp [isXmlText]

/-- Does a character stand in one of some texts? -/
def Has (texts : List Text) (c : CodePoint) : Prop := ∃ text ∈ texts, c ∈ text.toList

section Has

variable {c : CodePoint}

@[simp]
theorem has_nil : ¬Has [] c := by simp [Has]

@[simp]
theorem has_cons {text : Text} {texts : List Text} :
    Has (text :: texts) c ↔ c ∈ text.toList ∨ Has texts c := by
  simp [Has]

@[simp]
theorem has_append {texts more : List Text} :
    Has (texts ++ more) c ↔ Has texts c ∨ Has more c := by
  simp only [Has, List.mem_append, or_and_right, exists_or]

theorem has_toList {value : Option Text} : Has value.toList c ↔ c ∈ (value.getD "").toList := by
  cases value <;> simp

end Has

theorem isXmlChar_of_printable {c : CodePoint} (h : 0x20 ≤ c.toNat ∧ c.toNat ≤ 0x7E) :
    isXmlChar c = true := by
  simp only [isXmlChar, xmlRanges, RangeTable.covers]
  have h9 : ¬c.toNat < 0x9 := by omega
  have hD : ¬c.toNat < 0xD := by omega
  have h20 : ¬c.toNat < 0x20 := by omega
  have hlast : c.toNat ≤ 0xD7FF := by omega
  simp [h9, hD, h20, hlast]

theorem isXmlChar_surrogate (n : Fin 2048) : isXmlChar (.surrogate n) = false := by
  have hlow : 0xD800 ≤ CodePoint.toNat (.surrogate n) := Nat.le_add_right 0xD800 n
  have hhigh : CodePoint.toNat (.surrogate n) < 0xE000 := Nat.add_lt_add_left n.isLt 0xD800
  simp only [isXmlChar, xmlRanges, RangeTable.covers]
  simp
  omega

theorem isXmlChar_of_isDigit {c : Char} (h : c.isDigit = true) : isXmlChar c = true := by
  have hrange : 0x30 ≤ c.toNat ∧ c.toNat ≤ 0x39 := Char.isDigit_iff_toNat.mp h
  apply isXmlChar_of_printable
  rw [CodePoint.toNat_char]
  omega

section Foreign

variable {c : CodePoint}

theorem isXmlText_iff {text : Text} :
    isXmlText text = true ↔ ∀ c, isXmlChar c = false → c ∉ text.toList := by
  rw [isXmlText, List.all_eq_true]
  constructor
  · intro h c hc hm
    rw [h c hm] at hc
    cases hc
  · intro h c hm
    by_contra hc
    exact h c (Bool.not_eq_true _ ▸ hc) hm

theorem not_mem_of_isXmlText (hc : isXmlChar c = false) {text : Text}
    (h : isXmlText text = true) : c ∉ text.toList :=
  isXmlText_iff.mp h c hc

namespace Escape

theorem mem_replace (hc : isXmlChar c = false) {d : CodePoint} (hd : isXmlChar d = true) {text : Text}
    (ht : isXmlText text = true) (cs : List CodePoint) : c ∈ replace d text cs ↔ c ∈ cs := by
  have hcd : c ≠ d := by
    rintro rfl
    rw [hd] at hc
    cases hc
  have hone (e : CodePoint) : c ∈ (if e = d then text.toList else [e]) ↔ c = e := by
    split
    · next he => simp [not_mem_of_isXmlText hc ht, he, hcd]
    · simp
  rw [replace, List.mem_flatMap]
  simp only [hone, exists_eq_right']

theorem mem_charData (hc : isXmlChar c = false) (cs : List CodePoint) : c ∈ charData cs ↔ c ∈ cs := by
  rw [charData, mem_replace hc rfl rfl, mem_replace hc rfl rfl, mem_replace hc rfl rfl]

theorem mem_attrValue (hc : isXmlChar c = false) (cs : List CodePoint) : c ∈ attrValue cs ↔ c ∈ cs := by
  rw [attrValue, mem_replace hc rfl rfl, mem_charData hc]

end Escape

end Foreign

namespace Escape

theorem isWellFormed_text (t : Text) : (text t).isWellFormed = t.isWellFormed :=
  isWellFormed_congr fun n => mem_charData (isXmlChar_surrogate n) t.toList

theorem isWellFormed_attr (t : Text) : (attr t).isWellFormed = t.isWellFormed :=
  isWellFormed_congr fun n => mem_attrValue (isXmlChar_surrogate n) t.toList

end Escape

namespace Percent

/-- Whatever is encoded, the result may stand in an XML document. -/
theorem isXmlText_encoded (text : String) : isXmlText (encoded text) = true := by
  rw [isXmlText_ofString, encoded, String.toList_ofList]
  intro c hc
  exact isXmlChar_of_printable (toNat_of_isSafe (isSafe_of_mem_encode hc))

end Percent

end Text

open Text (isXmlChar isXmlText)

theorem Number.isXmlText_toString (n : Int) : isXmlText (toString n : String) = true := by
  rw [Text.isXmlText_ofString]
  intro c hc
  rcases mem_toString hc with rfl | hd
  · rfl
  · exact Text.isXmlChar_of_isDigit hd

namespace Calendar

theorem isXmlText_padded (width n : Nat) : isXmlText (padded width n) = true := by
  rw [Text.isXmlText_ofString, padded, String.toList_ofList, List.forall_mem_append]
  constructor
  · intro c hc
    rw [List.eq_of_mem_replicate hc]
    rfl
  · exact Text.isXmlText_ofString.mp (Number.isXmlText_toString n)

theorem isXmlText_headerDate (seconds : Nat) : isXmlText (headerDate seconds) = true := by
  have hweekday (n : Nat) : isXmlText (weekdayNames.getD n "") = true :=
    getD_of_forall (P := (isXmlText · = true)) rfl (by decide) n
  have hmonth (n : Nat) : isXmlText (monthNames.getD n "") = true :=
    getD_of_forall (P := (isXmlText · = true)) rfl (by decide) n
  have hsame (text : String) : toString text = text := rfl
  have hmarks : ∀ mark ∈ ([", ", " ", ":", " GMT"] : List String), isXmlText mark = true := by decide
  simp only [List.forall_mem_cons, List.not_mem_nil, false_implies, implies_true, and_true]
    at hmarks
  simp only [headerDate, Text.ofString_append, Text.isXmlText_append, hsame, isXmlText_padded,
    hweekday, hmonth, hmarks,
    Bool.and_self]

theorem isXmlText_readDate {field value : Text} {date : String} (h : readDate field value = .ok date) :
    isXmlText date = true := by
  obtain ⟨n, -, h⟩ := Outcome.bind_eq_ok.mp h
  split at h
  · next text ht =>
    simp only [instantText] at ht
    split at ht
    · rw [← Except.ok.inj h, ← Except.ok.inj ht]
      exact isXmlText_headerDate _
    · cases ht
  · cases h

end Calendar

end SearchAppliance
