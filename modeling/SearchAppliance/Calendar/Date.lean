namespace SearchAppliance.Calendar

structure Date where
  year : Nat
  month : Nat
  day : Nat
  deriving DecidableEq, Repr

def isLeap (year : Nat) : Bool := year % 4 == 0 && (year % 100 != 0 || year % 400 == 0)

def monthLengths (leap : Bool) : List Nat :=
  [31, if leap then 29 else 28, 31, 30, 31, 30, 31, 31, 30, 31, 30, 31]

/-- Months that end before the day, and the days left: both count from zero. -/
def splitMonth : List Nat → Nat → Nat × Nat
  | [], d => (0, d)
  | length :: rest, d =>
    if d < length then (0, d)
    else
      let (month, day) := splitMonth rest (d - length)
      (month + 1, day)

/-- Whole years before the day, and the days left in its year: both count from zero. The last day of
a leap year closes a period of four or of four hundred years. -/
def splitYear (n : Nat) : Nat × Nat :=
  let inPeriod := n % 146097
  let centuries := min (inPeriod / 36524) 3
  let inCentury := inPeriod - centuries * 36524
  let fours := inCentury / 1461
  let inFour := inCentury % 1461
  let years := min (inFour / 365) 3
  (n / 146097 * 400 + centuries * 100 + fours * 4 + years, inFour - years * 365)

namespace Date

/-- The date with `n` days between it and the first day of the year 1. -/
def ofDay (n : Nat) : Date :=
  let (years, dayOfYear) := splitYear n
  let (months, days) := splitMonth (monthLengths (isLeap (years + 1))) dayOfYear
  ⟨years + 1, months + 1, days + 1⟩

/-- Is it a day of the calendar? -/
def isValid (d : Date) : Bool :=
  1 ≤ d.year && 1 ≤ d.month && d.month ≤ 12 && 1 ≤ d.day
    && d.day ≤ (monthLengths (isLeap d.year)).getD (d.month - 1) 0

/-- The number of days before the date. -/
def toDay (d : Date) : Nat :=
  let years := d.year - 1
  365 * years + years / 4 - years / 100 + years / 400
    + ((monthLengths (isLeap d.year)).take (d.month - 1)).foldr (· + ·) 0 + (d.day - 1)

example : (ofDay 719162) = ⟨1970, 1, 1⟩ ∧ toDay ⟨1970, 1, 1⟩ = 719162 := by decide

end Date

end SearchAppliance.Calendar
