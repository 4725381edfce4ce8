import SearchAppliance.Json

namespace SearchAppliance.Settings

inductive FaultKind where
  | missing
  | integerExpected
  | integerSpelling
  | integerSize
  | integerFraction
  | finiteExpected
  | booleanExpected
  | booleanSpelling
  | textExpected
  | textUnicode
  | textTooShort
  | textPattern
  | listExpected
  | recordExpected
  | bodyExpected
  | objectExpected
  | tooFew
  | tooSmall
  | tooLarge
  | malformedText
  deriving DecidableEq, Repr

/-- The word for a kind of fault in answers. -/
def FaultKind.name : FaultKind → String
  | missing => "missing"
  | integerExpected => "int_type"
  | integerSpelling => "int_parsing"
  | integerSize => "int_parsing_size"
  | integerFraction => "int_from_float"
  | finiteExpected => "finite_number"
  | booleanExpected => "bool_type"
  | booleanSpelling => "bool_parsing"
  | textExpected => "string_type"
  | textUnicode => "string_unicode"
  | textTooShort => "string_too_short"
  | textPattern => "string_pattern_mismatch"
  | listExpected => "list_type"
  | recordExpected => "model_type"
  | bodyExpected => "model_attributes_type"
  | objectExpected => "dict_type"
  | tooFew => "too_short"
  | tooSmall => "greater_than_equal"
  | tooLarge => "less_than_equal"
  | malformedText => "json_invalid"

/-- A step from a value to one of its parts. -/
inductive Place where
  | key (name : String)
  | index (n : Nat)
  deriving DecidableEq, Repr

/-- A fault, the way to it from the whole value, and the part that has it. -/
structure Fault where
  kind : FaultKind
  place : List Place
  input : Json

/-- Faults of a part, seen from the value of which it is a part. -/
def Fault.within (place : Place) (faults : List Fault) : List Fault :=
  faults.map fun fault => { fault with place := place :: fault.place }

/-- A value read from its outer form, or all faults of that form in order. -/
inductive Checked (α : Type) where
  | ok (value : α)
  | bad (faults : List Fault)

namespace Checked

variable {α β : Type}

def fail (kind : FaultKind) (input : Json) : Checked α := bad [⟨kind, [], input⟩]

def map (f : α → β) : Checked α → Checked β
  | ok a => ok (f a)
  | bad faults => bad faults

/-- A further check of the whole value; it is made only when there is one. -/
def bind : Checked α → (α → Checked β) → Checked β
  | ok a, f => f a
  | bad faults, _ => bad faults

/-- Applies a function to one more part; the faults of both sides are kept, in order. -/
def and : Checked (α → β) → Checked α → Checked β
  | ok f, ok a => ok (f a)
  | ok _, bad faults => bad faults
  | bad faults, ok _ => bad faults
  | bad first, bad second => bad (first ++ second)

/-- A part of a value, its faults seen from that value. -/
def under (place : Place) : Checked α → Checked α
  | ok a => ok a
  | bad faults => bad (Fault.within place faults)

/-- All parts of a list, numbered from `n` on. -/
def each (check : Json → Checked α) : Nat → List Json → Checked (List α)
  | _, [] => ok []
  | n, v :: rest => (((check v).under (.index n)).map List.cons).and (each check (n + 1) rest)

end Checked

end SearchAppliance.Settings
