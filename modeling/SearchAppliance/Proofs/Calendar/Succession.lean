import SearchAppliance.Proofs.Calendar.Date

namespace SearchAppliance.Calendar

/-- The number of days of a year. -/
def yearLength (year : Nat) : Nat := if isLeap year then 366 else 365

theorem daysBefore_succ (years : Nat) :
    daysBefore (years + 1) = daysBefore years + yearLength (years + 1) := by
  have hdiv (k : Nat) : (years + 1) / k = years / k + if (years + 1) % k = 0 then 1 else 0 := by
    rw [Nat.succ_div]
    simp only [Nat.dvd_iff_mod_eq_zero]
  have hfour : (years + 1) % 100 = 0 → (years + 1) % 4 = 0 := by omega
  have hundred : (years + 1) % 400 = 0 → (years + 1) % 100 = 0 := by omega
  have hle : years / 100 ≤ years / 4 := by omega
  simp only [daysBefore, hdiv, yearLength, isLeap]
  -- Multiples of 400 are multiples of 100, and these of 4, so four kinds of years are left.
  by_cases h4 : (years + 1) % 4 = 0
  · by_cases h100 : (years + 1) % 100 = 0
    · by_cases h400 : (years + 1) % 400 = 0
      · simp [h4, h100, h400]
        omega
      · simp [h4, h100, h400]
        omega
    · simp [h4, h100, mt hundred h100]
      omega
  · simp [h4, mt hfour h4, mt hundred (mt hfour h4)]
    omega

theorem daysBefore_mono {a b : Nat} (h : a ≤ b) : daysBefore a ≤ daysBefore b := by
  induction h with
  | refl => exact Nat.le_refl _
  | step _ ih => exact Nat.le_trans ih (daysBefore_succ _ ▸ Nat.le_add_right _ _)

/-- A day lies in one year only. -/
theorem splitYear_unique {years rest n : Nat} (hn : daysBefore years + rest = n)
    (hr : rest < yearLength (years + 1)) : splitYear n = (years, rest) := by
  have hsum := daysBefore_splitYear n
  have hlt := splitYear_lt n
  change (splitYear n).2 < yearLength ((splitYear n).1 + 1) at hlt
  have hnext := daysBefore_succ years
  have hother := daysBefore_succ (splitYear n).1
  have hyear : (splitYear n).1 = years := by
    rcases Nat.lt_trichotomy (splitYear n).1 years with h | h | h
    · have hle : daysBefore ((splitYear n).1 + 1) ≤ daysBefore years := daysBefore_mono h
      omega
    · exact h
    · have hle : daysBefore (years + 1) ≤ daysBefore (splitYear n).1 := daysBefore_mono h
      omega
  rw [hyear] at hsum
  exact Prod.ext hyear (by simp only; omega)

theorem daysIn_take_succ {lengths : List Nat} {m : Nat} (h : m < lengths.length) :
    daysIn (lengths.take (m + 1)) = daysIn (lengths.take m) + lengths.getD m 0 := by
  induction lengths generalizing m with
  | nil => cases h
  | cons length rest ih =>
    cases m with
    | zero => exact Nat.add_comm length 0
    | succ m =>
      have hrest := ih (Nat.lt_of_succ_lt_succ h)
      rw [List.take_succ_cons, List.take_succ_cons, daysIn_cons, daysIn_cons, hrest,
        List.getD_cons_succ]
      omega

theorem daysIn_take_le (lengths : List Nat) (m : Nat) : daysIn (lengths.take m) ≤ daysIn lengths := by
  induction lengths generalizing m with
  | nil => simp
  | cons length rest ih =>
    cases m with
    | zero => exact Nat.zero_le _
    | succ m => exact Nat.add_le_add_left (ih m) length

/-- A day of the year lies in one month only. -/
theorem splitMonth_unique {lengths : List Nat} {m d : Nat} (h : d < lengths.getD m 0) :
    splitMonth lengths (daysIn (lengths.take m) + d) = (m, d) := by
  induction lengths generalizing m with
  | nil => cases h
  | cons length rest ih =>
    cases m with
    | zero =>
      have hsame : daysIn ((length :: rest).take 0) + d = d := Nat.zero_add d
      have hlt : d < length := h
      rw [hsame, splitMonth, if_pos hlt]
    | succ m =>
      have hrest : daysIn (rest.take m) + d = daysIn ((length :: rest).take (m + 1)) + d - length := by
        rw [List.take_succ_cons, daysIn_cons]
        omega
      have hbeyond : ¬daysIn ((length :: rest).take (m + 1)) + d < length := by
        rw [List.take_succ_cons, daysIn_cons]
        omega
      rw [splitMonth, if_neg hbeyond, ← hrest, ih h]

theorem monthLengths_bounds (leap : Bool) {m : Nat} (h : m < 12) :
    0 < (monthLengths leap).getD m 0 ∧ (monthLengths leap).getD m 0 ≤ 31 := by
  have hall : ∀ leap, ∀ m < 12, 0 < (monthLengths leap).getD m 0 ∧
      (monthLengths leap).getD m 0 ≤ 31 := by decide
  exact hall leap m h

namespace Date

/-- A date of the calendar by what comes before it: years, months of its year, days of its month. -/
theorem isValid_iff {d : Date} : d.isValid = true ↔ ∃ years months days,
    d = ⟨years + 1, months + 1, days + 1⟩ ∧ months < 12 ∧
      days < (monthLengths (isLeap (years + 1))).getD months 0 := by
  simp only [isValid, Bool.and_eq_true, decide_eq_true_eq]
  constructor
  · rintro ⟨⟨⟨⟨hyear, hmonth⟩, hmonths⟩, hday⟩, hdays⟩
    obtain ⟨year, month, day⟩ := d
    obtain ⟨years, rfl⟩ := Nat.exists_eq_add_of_le' hyear
    obtain ⟨months, rfl⟩ := Nat.exists_eq_add_of_le' hmonth
    obtain ⟨days, rfl⟩ := Nat.exists_eq_add_of_le' hday
    exact ⟨years, months, days, rfl, hmonths, hdays⟩
  · rintro ⟨years, months, days, rfl, hmonths, hdays⟩
    exact ⟨⟨⟨⟨Nat.succ_pos _, Nat.succ_pos _⟩, hmonths⟩, Nat.succ_pos _⟩, hdays⟩

theorem toDay_succ (years months days : Nat) : toDay ⟨years + 1, months + 1, days + 1⟩ =
    daysBefore years + daysIn ((monthLengths (isLeap (years + 1))).take months) + days := rfl

/-- A date of the calendar is the date of the number of days before it. -/
theorem ofDay_toDay {d : Date} (h : d.isValid = true) : ofDay d.toDay = d := by
  obtain ⟨years, months, days, rfl, hmonths, hdays⟩ := isValid_iff.mp h
  let lengths := monthLengths (isLeap (years + 1))
  have hin : daysIn (lengths.take months) + days < yearLength (years + 1) := by
    have hstep := @daysIn_take_succ lengths months hmonths
    have hle := daysIn_take_le lengths (months + 1)
    have hyear : daysIn lengths = yearLength (years + 1) := monthLengths_sum _
    change days < lengths.getD months 0 at hdays
    omega
  have hday : daysBefore years + (daysIn (lengths.take months) + days) =
      toDay ⟨years + 1, months + 1, days + 1⟩ := (Nat.add_assoc _ _ _).symm
  exact ofDay_eq (splitYear_unique hday hin) (splitMonth_unique hdays)

/-- The date after a date. -/
def next (d : Date) : Date :=
  if d.day < (monthLengths (isLeap d.year)).getD (d.month - 1) 0 then
    ⟨d.year, d.month, d.day + 1⟩
  else if d.month < 12 then ⟨d.year, d.month + 1, 1⟩
  else ⟨d.year + 1, 1, 1⟩

/-- The next date is one of the calendar, one day later. -/
theorem next_spec {d : Date} (h : d.isValid = true) :
    d.next.isValid = true ∧ d.next.toDay = d.toDay + 1 := by
  obtain ⟨years, months, days, rfl, hmonths, hdays⟩ := isValid_iff.mp h
  let lengths := monthLengths (isLeap (years + 1))
  have hstep : daysIn (lengths.take (months + 1)) =
      daysIn (lengths.take months) + lengths.getD months 0 := daysIn_take_succ hmonths
  have hday : toDay ⟨years + 1, months + 1, days + 1⟩ =
      daysBefore years + daysIn (lengths.take months) + days := toDay_succ years months days
  change days < lengths.getD months 0 at hdays
  unfold next
  split
  · next hlt =>
    exact ⟨isValid_iff.mpr ⟨years, months, days + 1, rfl, hmonths, hlt⟩, rfl⟩
  · next hlast =>
    change ¬days + 1 < lengths.getD months 0 at hlast
    split
    · next hmonth =>
      have hpos := (monthLengths_bounds (isLeap (years + 1)) hmonth).1
      refine ⟨isValid_iff.mpr ⟨years, months + 1, 0, rfl, hmonth, hpos⟩, ?_⟩
      have hnext : toDay ⟨years + 1, months + 1 + 1, 0 + 1⟩ =
          daysBefore years + daysIn (lengths.take (months + 1)) + 0 := toDay_succ _ _ _
      exact hnext.trans (by omega)
    · next hmonth =>
      -- The month that ends is the last one, so the year ends with it.
      have hpos := (monthLengths_bounds (isLeap (years + 1 + 1)) (Nat.succ_pos 11)).1
      refine ⟨isValid_iff.mpr ⟨years + 1, 0, 0, rfl, Nat.succ_pos 11, hpos⟩, ?_⟩
      have hnext : toDay ⟨years + 1 + 1, 0 + 1, 0 + 1⟩ = daysBefore (years + 1) + 0 + 0 :=
        toDay_succ _ _ _
      have hwhole : daysIn (lengths.take (months + 1)) = yearLength (years + 1) := by
        have hall : months + 1 = lengths.length := by
          change ¬months + 1 < 12 at hmonth
          rw [monthLengths_length]
          omega
        rw [hall, List.take_length]
        exact monthLengths_sum _
      have hyear := daysBefore_succ years
      exact hnext.trans (by omega)

/-- The date of a day is the one reached from the first of January of the year 1 by going on to the
next date as many times. -/
theorem ofDay_eq_repeat (n : Nat) : ofDay n = Nat.repeat next n ⟨1, 1, 1⟩ := by
  induction n with
  | zero => rfl
  | succ n ih =>
    obtain ⟨hvalid, hday⟩ := next_spec (isValid_ofDay n)
    rw [toDay_ofDay] at hday
    rw [Nat.repeat, ← ih, ← hday, ofDay_toDay hvalid]

/-- Every date of the calendar is reached from the first one, by as many steps as it counts days. -/
theorem eq_repeat {d : Date} (h : d.isValid = true) : d = Nat.repeat next d.toDay ⟨1, 1, 1⟩ :=
  (ofDay_toDay h).symm.trans (ofDay_eq_repeat d.toDay)

end Date

end SearchAppliance.Calendar
