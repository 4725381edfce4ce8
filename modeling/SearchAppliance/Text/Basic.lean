namespace SearchAppliance

/-- What texts are made of: characters, and halves of surrogate pairs that stand alone. -/
inductive CodePoint where
  | char (c : Char)
  | surrogate (n : Fin 2048)
  deriving DecidableEq, Repr

namespace CodePoint

instance : Coe Char CodePoint := ⟨char⟩

def toNat : CodePoint → Nat
  | char c => c.toNat
  | surrogate n => 0xD800 + n

def ofNat (n : Nat) : CodePoint :=
  if h : 0xD800 ≤ n ∧ n < 0xE000 then surrogate ⟨n - 0xD800, by omega⟩ else char (Char.ofNat n)

def isChar : CodePoint → Bool
  | char _ => true
  | surrogate _ => false

def char? : CodePoint → Option Char
  | char c => some c
  | surrogate _ => none

@[simp]
theorem toNat_char (c : Char) : toNat c = c.toNat := rfl

theorem toNat_lt (c : CodePoint) : c.toNat < 0x110000 := by
  cases c with
  | char c =>
    have hc := c.valid
    simp only [UInt32.isValidChar, Nat.isValidChar] at hc
    change c.val.toNat < _
    omega
  | surrogate n =>
    simp only [toNat]
    omega

theorem toNat_ofNat {n : Nat} (h : n < 0x110000) : (ofNat n).toNat = n := by
  unfold ofNat
  split
  · next hn =>
    simp only [toNat]
    omega
  · next hn =>
    have hvalid : n.isValidChar := by
      unfold Nat.isValidChar
      omega
    rw [toNat_char, Char.ofNat, dif_pos hvalid]
    rfl

theorem ofNat_toNat (c : CodePoint) : ofNat c.toNat = c := by
  cases c with
  | char c =>
    have hc := c.valid
    simp only [UInt32.isValidChar, Nat.isValidChar] at hc
    have hno : ¬(0xD800 ≤ c.toNat ∧ c.toNat < 0xE000) := by
      change ¬(0xD800 ≤ c.val.toNat ∧ c.val.toNat < 0xE000)
      omega
    rw [toNat_char, ofNat, dif_neg hno, Char.ofNat_toNat]
  | surrogate n =>
    have hn := n.isLt
    have hin : 0xD800 ≤ 0xD800 + n.val ∧ 0xD800 + n.val < 0xE000 := by omega
    rw [toNat, ofNat, dif_pos hin]
    exact congrArg surrogate (Fin.ext (Nat.add_sub_cancel_left 0xD800 n.val))

theorem toNat_inj {a b : CodePoint} : a.toNat = b.toNat ↔ a = b := by
  constructor
  · intro h
    rw [← ofNat_toNat a, h, ofNat_toNat]
  · rintro rfl
    rfl

end CodePoint

/-- A text, which unlike a string may have halves of surrogate pairs in it. -/
structure Text where
  ofList ::
  toList : List CodePoint
  deriving DecidableEq, Repr

namespace Text

def ofString (s : String) : Text := ofList (s.toList.map .char)

instance : Coe String Text := ⟨ofString⟩

instance : Inhabited Text := ⟨""⟩

instance : Append Text := ⟨fun s t => ofList (s.toList ++ t.toList)⟩

def isEmpty (t : Text) : Bool := t.toList.isEmpty

/-- Texts one after another. -/
def join (ts : List Text) : Text := ofList (ts.flatMap toList)

/-- The text as a string, if it has no surrogates. -/
def string? (t : Text) : Option String := (t.toList.mapM CodePoint.char?).map String.ofList

/-- Has the text no surrogates? -/
def isWellFormed (t : Text) : Bool := t.toList.all (·.isChar)

/-- The string that is shown for a text where surrogates cannot be. -/
def lossy (t : Text) : String :=
  String.ofList (t.toList.flatMap fun
    | .char c => [c]
    | .surrogate _ => ['\ufffd', '\ufffd', '\ufffd'])

@[simp]
theorem ofList_toList (t : Text) : ofList t.toList = t := rfl

@[simp]
theorem toList_ofList (cs : List CodePoint) : (ofList cs).toList = cs := rfl

theorem toList_inj {s t : Text} : s.toList = t.toList ↔ s = t := by
  constructor
  · intro h
    rw [← ofList_toList s, h]
  · rintro rfl
    rfl

@[simp]
theorem toList_append (s t : Text) : (s ++ t).toList = s.toList ++ t.toList := rfl

@[simp]
theorem toList_join (ts : List Text) : (join ts).toList = ts.flatMap toList := rfl

@[simp]
theorem toList_ofString (s : String) : (s : Text).toList = s.toList.map .char := rfl

@[simp]
theorem toList_empty : ("" : Text).toList = [] := rfl

@[simp]
theorem char_mem_map {c : Char} {cs : List Char} : CodePoint.char c ∈ cs.map .char ↔ c ∈ cs := by
  simp

theorem map_char_inj {cs ds : List Char} :
    cs.map CodePoint.char = ds.map CodePoint.char ↔ cs = ds :=
  List.map_inj_right fun _ _ h => CodePoint.char.inj h

@[simp]
theorem ofString_inj {s t : String} : (s : Text) = t ↔ s = t := by
  rw [← toList_inj, toList_ofString, toList_ofString, map_char_inj, String.toList_inj]

theorem mapM_char? {cs : List CodePoint} {ds : List Char} :
    cs.mapM CodePoint.char? = some ds ↔ cs = ds.map .char := by
  induction cs generalizing ds with
  | nil => cases ds <;> simp
  | cons c cs ih =>
    cases c with
    | surrogate n => cases ds <;> simp [CodePoint.char?]
    | char c =>
      cases ds with
      | nil => cases h : cs.mapM CodePoint.char? <;> simp [CodePoint.char?, h]
      | cons d ds => cases h : cs.mapM CodePoint.char? <;> simp [CodePoint.char?, h, ← ih]

theorem string?_eq_some {t : Text} {s : String} : t.string? = some s ↔ t = s := by
  rw [string?, Option.map_eq_some_iff]
  constructor
  · rintro ⟨cs, hcs, rfl⟩
    rw [← toList_inj, mapM_char?.mp hcs, toList_ofString, String.toList_ofList]
  · rintro rfl
    exact ⟨s.toList, mapM_char?.mpr rfl, String.ofList_toList⟩

@[simp]
theorem string?_ofString (s : String) : (s : Text).string? = some s := string?_eq_some.mpr rfl

theorem string?_isSome (t : Text) : t.string?.isSome = t.isWellFormed := by
  obtain ⟨cs⟩ := t
  simp only [string?, isWellFormed, Option.isSome_map]
  induction cs with
  | nil => rfl
  | cons c cs ih =>
    cases c with
    | surrogate n => rfl
    | char c =>
      rw [List.all_cons, ← ih]
      cases h : cs.mapM CodePoint.char? <;> simp [CodePoint.char?, CodePoint.isChar, h]

theorem string?_eq_none {t : Text} : t.string? = none ↔ t.isWellFormed = false := by
  rw [← string?_isSome, Option.isSome_eq_false_iff, Option.isNone_iff_eq_none]

theorem isWellFormed_iff {t : Text} :
    t.isWellFormed = true ↔ ∀ n, CodePoint.surrogate n ∉ t.toList := by
  rw [isWellFormed, List.all_eq_true]
  constructor
  · intro h n hn
    cases h _ hn
  · rintro h (c | n) hc
    · rfl
    · exact absurd hc (h n)

@[simp]
theorem isWellFormed_ofString (s : String) : (s : Text).isWellFormed = true := by
  simp [isWellFormed_iff]

@[simp]
theorem isWellFormed_append (s t : Text) :
    (s ++ t).isWellFormed = (s.isWellFormed && t.isWellFormed) := List.all_append

theorem isWellFormed_join (ts : List Text) : (join ts).isWellFormed = ts.all isWellFormed :=
  List.all_flatMap

theorem isWellFormed_congr {s t : Text}
    (h : ∀ n, CodePoint.surrogate n ∈ s.toList ↔ CodePoint.surrogate n ∈ t.toList) :
    s.isWellFormed = t.isWellFormed := by
  rw [Bool.eq_iff_iff, isWellFormed_iff, isWellFormed_iff]
  simp only [h]

theorem eq_empty_iff {t : Text} : t = "" ↔ t.toList = [] := by
  rw [← toList_inj, toList_empty]

theorem ofString_append (s t : String) : ((s ++ t : String) : Text) = s ++ t := by
  apply toList_inj.mp
  simp

@[simp]
theorem empty_append (t : Text) : ("" : Text) ++ t = t := rfl

theorem append_assoc (s t u : Text) : s ++ t ++ u = s ++ (t ++ u) :=
  toList_inj.mp (List.append_assoc _ _ _)

/-- A set of code points as ascending, disjoint ranges, both ends included. -/
abbrev RangeTable := List (Nat × Nat)

/-- Membership. Ranges ascend, so a range that begins beyond the code point ends the search. -/
def RangeTable.covers : RangeTable → Nat → Bool
  | [], _ => false
  | (first, last) :: rest, n => if n < first then false else n ≤ last || covers rest n

/-- Every `step`-th code point from `first` to `last` moves by `shift`. -/
structure ShiftRun where
  first : Nat
  last : Nat
  step : Nat
  shift : Int
  deriving DecidableEq, Repr

namespace ShiftRun

def applies (run : ShiftRun) (n : Nat) : Bool :=
  run.first ≤ n && n ≤ run.last && (n - run.first) % run.step == 0

/-- The image of a code point under the first run that applies; other code points stay. -/
def move : List ShiftRun → Nat → Nat
  | [], n => n
  | run :: rest, n =>
    if n < run.first then n
    else if run.applies n then (n + run.shift).toNat else move rest n

end ShiftRun

end Text

end SearchAppliance
