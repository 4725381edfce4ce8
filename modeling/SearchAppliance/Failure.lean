import SearchAppliance.Text.Quoted

namespace SearchAppliance

inductive Failure where
  /-- The value of a numeric field is no integer, or no date where it has to be one. -/
  | malformedField (field value : Text)
  /-- A document has no value in the field that identifies it. -/
  | missingField (field : String)
  /-- A numeral has more digits than a number is read from. -/
  | numeralTooLong (digits : Nat)
  /-- A number has more digits than are written. -/
  | numberTooLong
  /-- An instant lies outside the years 1 to 9999. -/
  | dateOutOfRange
  /-- A duration is too long for a count of milliseconds. -/
  | durationInfinite
  /-- A duration is the difference of two clock readings that have none. -/
  | durationUndefined
  /-- The reader of a stream has gone. -/
  | streamClosed
  /-- A text with surrogates has no bytes. -/
  | unencodable (text : Text)
  deriving DecidableEq, Repr

namespace Failure

open SearchAppliance.Text.Quoted (quoted)

/-- Tells where the first surrogates of a text stand. -/
def unencodableMessage (cs : List CodePoint) : String :=
  let place := (cs.takeWhile (·.isChar)).length
  match (cs.drop place).takeWhile (!·.isChar) with
  | [half] =>
    let digits := String.ofList (Text.Quoted.hexDigits 4 half.toNat)
    s!"'utf-8' codec can't encode character '\\u{digits}' in position {place}: surrogates not allowed"
  | run =>
    s!"'utf-8' codec can't encode characters in position {place}-{place + run.length - 1}: surrogates not allowed"

/-- The text that logs and answers show. -/
def message : Failure → String
  | malformedField field value =>
    s!"Field {quoted field} does not hold a usable integer: {quoted value}"
  | missingField field => s!"Document is missing the {quoted field} field"
  | numeralTooLong digits =>
    s!"Exceeds the limit (4300 digits) for integer string conversion: value has {digits} digits; use sys.set_int_max_str_digits() to increase the limit"
  | numberTooLong =>
    "Exceeds the limit (4300 digits) for integer string conversion; use sys.set_int_max_str_digits() to increase the limit"
  | dateOutOfRange => "date value out of range"
  | durationInfinite => "cannot convert float infinity to integer"
  | durationUndefined => "cannot convert float NaN to integer"
  | streamClosed => "client went away"
  | unencodable text => unencodableMessage text.toList

/-- Is it the one failure that may be answered by leaving out the value? -/
def isMalformedField : Failure → Bool
  | malformedField _ _ => true
  | _ => false

end Failure

/-- The text as a string, which has bytes. -/
def Text.encode (t : Text) : Except Failure String :=
  match t.string? with
  | some s => .ok s
  | none => .error (.unencodable t)

theorem Text.encode_eq_ok {t : Text} {s : String} : t.encode = .ok s ↔ t = s := by
  unfold Text.encode
  split
  · next r h =>
    rw [Text.string?_eq_some.mp h, Text.ofString_inj]
    exact ⟨Except.ok.inj, congrArg Except.ok⟩
  · next h =>
    constructor
    · exact nofun
    · rintro rfl
      simp at h

theorem Text.encode_eq_error {t : Text} {cause : Failure} :
    t.encode = .error cause ↔ t.isWellFormed = false ∧ cause = .unencodable t := by
  rw [← Text.string?_eq_none]
  unfold Text.encode
  cases t.string? <;> simp [eq_comm]

theorem Text.encode_isOk (t : Text) : t.encode.isOk = t.isWellFormed := by
  rw [← Text.string?_isSome, encode]
  cases t.string? <;> rfl

end SearchAppliance
