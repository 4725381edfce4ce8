import SearchAppliance.Failure

namespace SearchAppliance.Number

/-- The number `± mantissa · 2 ^ exponent`. -/
structure Dyadic where
  negative : Bool
  mantissa : Nat
  exponent : Int
  deriving DecidableEq, Repr

namespace Dyadic

/-- The value of a finite double from its sign bit, exponent and fraction. -/
def ofFloat? (x : Float) : Option Dyadic :=
  let bits := x.toBits.toNat
  let negative := bits >>> 63 == 1
  let exponent : Nat := (bits >>> 52) % 0x800
  let fraction := bits % 0x10000000000000
  if exponent = 2047 then none
  else if exponent = 0 then some ⟨negative, fraction, -1074⟩
  else some ⟨negative, 0x10000000000000 + fraction, (exponent : Int) - 1075⟩

/-- Numerator and denominator of the magnitude. -/
def ratio (d : Dyadic) : Nat × Nat :=
  if d.exponent < 0 then (d.mantissa, 1 <<< d.exponent.natAbs)
  else (d.mantissa <<< d.exponent.natAbs, 1)

def isInteger (d : Dyadic) : Bool := d.ratio.1 % d.ratio.2 == 0

/-- The integer part: what stands after the point is dropped. -/
def truncate (d : Dyadic) : Int :=
  let whole := d.ratio.1 / d.ratio.2
  if d.negative then -whole else whole

/-- A quotient rounded to the nearest integer, a half to the even one. -/
def roundHalfEven (num den : Nat) : Nat :=
  let whole := num / den
  let twice := 2 * (num % den)
  if den < twice || twice == den && whole % 2 == 1 then whole + 1 else whole

/-- Two decimal places of the exact value. The sign stays also when all digits are zero. -/
def twoPlaces (d : Dyadic) : String :=
  let hundredths := roundHalfEven (100 * d.ratio.1) d.ratio.2
  let places := hundredths % 100
  let sign := if d.negative then "-" else ""
  s!"{sign}{hundredths / 100}.{places / 10}{places % 10}"

end Dyadic

/-- The whole milliseconds of a duration. -/
def wholePart (x : Float) : Except Failure Int :=
  match Dyadic.ofFloat? x with
  | some d => .ok d.truncate
  | none => .error (if x.isNaN then .durationUndefined else .durationInfinite)

/-- A double with two decimal places. -/
def fixed (x : Float) : String :=
  match Dyadic.ofFloat? x with
  | some d => d.twoPlaces
  | none => if x.isNaN then "nan" else if x < 0 then "-inf" else "inf"

end SearchAppliance.Number
