import SearchAppliance.Calendar.Date

namespace SearchAppliance.Calendar

/-- The number of days in all the months of a list. -/
def daysIn (lengths : List Nat) : Nat := lengths.foldr (· + ·) 0

theorem daysIn_cons (length : Nat) (rest : List Nat) :
    daysIn (length :: rest) = length + daysIn rest :=
  rfl

/-- The days of the months that have ended and the days that are left make up the day of the year. -/
theorem splitMonth_sum (lengths : List Nat) (d : Nat) :
    daysIn (lengths.take (splitMonth lengths d).1) + (splitMonth lengths d).2 = d := by
  induction lengths generalizing d with
  | nil => exact Nat.zero_add d
  | cons length rest ih =>
    rw [splitMonth]
    split
    · exact Nat.zero_add d
    · have hrest := ih (d - length)
      change daysIn (length :: rest.take (splitMonth rest (d - length)).1)
        + (splitMonth rest (d - length)).2 = d
      rw [daysIn_cons]
      omega

/-- A day within the months of a list lies in one of them. -/
theorem splitMonth_lt {lengths : List Nat} {d : Nat} (h : d < daysIn lengths) :
    (splitMonth lengths d).1 < lengths.length ∧
      (splitMonth lengths d).2 < lengths.getD (splitMonth lengths d).1 0 := by
  induction lengths generalizing d with
  | nil => exact absurd h (Nat.not_lt_zero d)
  | cons length rest ih =>
    rw [daysIn_cons] at h
    rw [splitMonth]
    split
    · next hd => exact ⟨Nat.succ_pos _, hd⟩
    · obtain ⟨hmonth, hday⟩ := ih (d := d - length) (by omega)
      exact ⟨Nat.succ_lt_succ hmonth, hday⟩

theorem monthLengths_sum (leap : Bool) :
    daysIn (monthLengths leap) = if leap then 366 else 365 := by
  cases leap <;> rfl

theorem monthLengths_length (leap : Bool) : (monthLengths leap).length = 12 := rfl

/-- The days of whole years before a year, the leap days among them. -/
def daysBefore (years : Nat) : Nat := 365 * years + years / 4 - years / 100 + years / 400

/-- Years split off by periods of 400, 100, 4 and 1 of them. -/
theorem splitYear_eq (n : Nat) :
    ∃ periods centuries fours years rest,
      splitYear n = (400 * periods + 100 * centuries + 4 * fours + years, rest) ∧
        n = 146097 * periods + 36524 * centuries + 1461 * fours + 365 * years + rest ∧
        centuries ≤ 3 ∧ fours ≤ 24 ∧ years ≤ 3 ∧ rest ≤ 365 ∧
        (rest = 365 → years = 3 ∧ (fours = 24 → centuries = 3)) := by
  let inPeriod := n % 146097
  let centuries := min (inPeriod / 36524) 3
  let inCentury := inPeriod - centuries * 36524
  let years := min (inCentury % 1461 / 365) 3
  have hperiod : inPeriod < 146097 := Nat.mod_lt n (by decide)
  have hwhole : n = 146097 * (n / 146097) + inPeriod := (Nat.div_add_mod n 146097).symm
  have hcentury : centuries ≤ 3 ∧ centuries * 36524 ≤ inPeriod ∧
      inCentury ≤ 36524 ∧ (inCentury = 36524 → centuries = 3) := by omega
  refine ⟨n / 146097, centuries, inCentury / 1461, years, inCentury % 1461 - years * 365, ?_, ?_,
    hcentury.1, ?_, ?_, ?_, ?_⟩
  · simp only [splitYear]
    congr 1
    change n / 146097 * 400 + centuries * 100 + inCentury / 1461 * 4 + years = _
    omega
  all_goals omega

theorem daysBefore_splitYear (n : Nat) : daysBefore (splitYear n).1 + (splitYear n).2 = n := by
  obtain ⟨periods, centuries, fours, years, rest, heq, hn, hc, hf, hy, -, -⟩ := splitYear_eq n
  rw [heq, daysBefore]
  have hquarter : (400 * periods + 100 * centuries + 4 * fours + years) / 4 =
      100 * periods + 25 * centuries + fours := by omega
  have hhundred : (400 * periods + 100 * centuries + 4 * fours + years) / 100 =
      4 * periods + centuries := by omega
  have hfourHundred : (400 * periods + 100 * centuries + 4 * fours + years) / 400 = periods := by
    omega
  simp only [hquarter, hhundred, hfourHundred]
  omega

/-- The day that is left lies in the year, which is a leap year if it is the last one of it. -/
theorem splitYear_lt (n : Nat) :
    (splitYear n).2 < if isLeap ((splitYear n).1 + 1) then 366 else 365 := by
  obtain ⟨periods, centuries, fours, years, rest, heq, -, hc, hf, hy, hr, hlast⟩ := splitYear_eq n
  rw [heq]
  split
  · omega
  · next hleap =>
    simp only [isLeap, Bool.and_eq_true, Bool.or_eq_true, bne_iff_ne, beq_iff_eq] at hleap
    omega

namespace Date

theorem ofDay_eq {n years rest months days : Nat} (hy : splitYear n = (years, rest))
    (hm : splitMonth (monthLengths (isLeap (years + 1))) rest = (months, days)) :
    ofDay n = ⟨years + 1, months + 1, days + 1⟩ := by
  simp only [ofDay, hy, hm]

theorem isValid_ofDay (n : Nat) : (ofDay n).isValid = true := by
  rcases hy : splitYear n with ⟨years, rest⟩
  rcases hm : splitMonth (monthLengths (isLeap (years + 1))) rest with ⟨months, days⟩
  have hin : rest < daysIn (monthLengths (isLeap (years + 1))) := by
    have hlt := splitYear_lt n
    rw [hy] at hlt
    rwa [monthLengths_sum]
  obtain ⟨hmonth, hday⟩ := splitMonth_lt hin
  rw [hm] at hmonth hday
  rw [ofDay_eq hy hm]
  simp only [isValid, Bool.and_eq_true, decide_eq_true_eq, Nat.add_sub_cancel]
  simp only [monthLengths_length] at hmonth hday
  omega

/-- The days before the date of a day are those that were counted. -/
theorem toDay_ofDay (n : Nat) : (ofDay n).toDay = n := by
  rcases hy : splitYear n with ⟨years, rest⟩
  rcases hm : splitMonth (monthLengths (isLeap (years + 1))) rest with ⟨months, days⟩
  have hyear := daysBefore_splitYear n
  have hmonth := splitMonth_sum (monthLengths (isLeap (years + 1))) rest
  rw [hy] at hyear
  rw [hm] at hmonth
  have hday : (ofDay n).toDay = daysBefore years +
      daysIn ((monthLengths (isLeap (years + 1))).take months) + days := by
    rw [ofDay_eq hy hm]
    simp only [toDay, Nat.add_sub_cancel]
    rfl
  simp only at hyear hmonth
  omega

end Date

end SearchAppliance.Calendar
