import SearchAppliance.Calendar.Date
import SearchAppliance.Failure
import SearchAppliance.Number.Numeral

namespace SearchAppliance.Calendar

def weekdayNames : List String := ["Mon", "Tue", "Wed", "Thu", "Fri", "Sat", "Sun"]

def monthNames : List String :=
  ["Jan", "Feb", "Mar", "Apr", "May", "Jun", "Jul", "Aug", "Sep", "Oct", "Nov", "Dec"]

/-- The decimal text of a number, with zeros before it up to a width. -/
def padded (width n : Nat) : String :=
  let digits := (toString n).toList
  String.ofList (List.replicate (width - digits.length) '0' ++ digits)

/-- Days from the first day of the year 1 to the first of January 1970. -/
def epochDay : Nat := 719162

/-- The days of the years 1 to 9999. -/
def dayCount : Nat := 3652059

/-- Date and time of day of a count of seconds since the beginning of the year 1. -/
def headerDate (seconds : Nat) : String :=
  let day := seconds / 86400
  let time := seconds % 86400
  let date := Date.ofDay day
  let weekday := weekdayNames.getD (day % 7) ""
  let month := monthNames.getD (date.month - 1) ""
  s!"{weekday}, {padded 2 date.day} {month} {padded 4 date.year} {padded 2 (time / 3600)}:{padded 2 (time / 60 % 60)}:{padded 2 (time % 60)} GMT"

/-- The header text of an instant: its second, the milliseconds dropped. The calendar of headers holds
the years 1 to 9999. -/
def instantText (milliseconds : Int) : Except Failure String :=
  let seconds := milliseconds.fdiv 1000 + epochDay * 86400
  if 0 ≤ seconds ∧ seconds < dayCount * 86400 then .ok (headerDate seconds.toNat)
  else .error .dateOutOfRange

/-- The date in a field that holds milliseconds. An instant without a date is as unusable as a text
that is no number. -/
def readDate (field value : Text) : Except Failure String := do
  match instantText (← Number.readField field value) with
  | .ok text => .ok text
  | .error _ => .error (.malformedField field value)

end SearchAppliance.Calendar
