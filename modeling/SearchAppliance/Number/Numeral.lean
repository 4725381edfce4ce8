import SearchAppliance.Failure

namespace SearchAppliance.Text.DecimalDigit

/-- The code points of the digit zero, ascending. -/
def zeros : List Nat := [
  0x30, 0x660, 0x6F0, 0x7C0, 0x966, 0x9E6, 0xA66, 0xAE6, 0xB66, 0xBE6,
  0xC66, 0xCE6, 0xD66, 0xDE6, 0xE50, 0xED0, 0xF20, 0x1040, 0x1090, 0x17E0,
  0x1810, 0x1946, 0x19D0, 0x1A80, 0x1A90, 0x1B50, 0x1BB0, 0x1C40, 0x1C50, 0xA620,
  0xA8D0, 0xA900, 0xA9D0, 0xA9F0, 0xAA50, 0xABF0, 0xFF10, 0x104A0, 0x10D30, 0x11066,
  0x110F0, 0x11136, 0x111D0, 0x112F0, 0x11450, 0x114D0, 0x11650, 0x116C0, 0x11730, 0x118E0,
  0x11950, 0x11C50, 0x11D50, 0x11DA0, 0x16A60, 0x16AC0, 0x16B50, 0x1D7CE, 0x1D7D8, 0x1D7E2,
  0x1D7EC, 0x1D7F6, 0x1E140, 0x1E2F0, 0x1E950, 0x1FBF0]

/-- The value of a decimal digit of any script. -/
def value? (c : CodePoint) : Option Nat :=
  (zeros.find? fun z => z ≤ c.toNat && c.toNat < z + 10).map (c.toNat - ·)

def isDigit (c : CodePoint) : Bool := (value? c).isSome

example : value? '7' = some 7 ∧ value? '٣' = some 3 ∧ value? '²' = none := by decide

end SearchAppliance.Text.DecimalDigit

namespace SearchAppliance.Number

def digitLimit : Nat := 4300

/-- A sign and at least one digit, most significant digit first. -/
structure Numeral where
  negative : Bool
  digits : List Nat
  deriving DecidableEq, Repr

namespace Numeral

/-- Digits only, of any script, at least one. -/
def digits? (cs : List CodePoint) : Option (List Nat) :=
  if cs.isEmpty then none else cs.mapM Text.DecimalDigit.value?

/-- Digits after an optional minus. -/
def ofList? : List CodePoint → Option Numeral
  | .char '-' :: cs => (digits? cs).map (⟨true, ·⟩)
  | cs => (digits? cs).map (⟨false, ·⟩)

/-- Digits after an optional sign of either kind. -/
def ofSignedList? : List CodePoint → Option Numeral
  | .char '+' :: cs => (digits? cs).map (⟨false, ·⟩)
  | cs => ofList? cs

def magnitude (n : Numeral) : Nat := n.digits.foldl (fun m d => 10 * m + d) 0

/-- The signed value, whatever the number of digits. -/
def toInt (n : Numeral) : Int := if n.negative then -n.magnitude else n.magnitude

/-- The value of a numeral within the limit. -/
def value (n : Numeral) : Except Failure Int :=
  if digitLimit < n.digits.length then .error (.numeralTooLong n.digits.length) else .ok n.toInt

end Numeral

/-- The integer in a field. -/
def readField (field value : Text) : Except Failure Int :=
  match Numeral.ofSignedList? value.toList with
  | none => .error (.malformedField field value)
  | some n => n.value

/-- The decimal text of a number within the limit. -/
def write (n : Int) : Except Failure String :=
  if digitLimit < (toString n.natAbs).length then .error .numberTooLong else .ok (toString n)

end SearchAppliance.Number
