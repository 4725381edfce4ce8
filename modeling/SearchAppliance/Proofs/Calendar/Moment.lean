import SearchAppliance.Proofs.Calendar.HeaderDate
import SearchAppliance.Proofs.Calendar.Succession

namespace SearchAppliance

open Number (Numeral digitLimit powerOfTen)

namespace Calendar

/-- The last digits of a number, as many as there are places. -/
def lastDigits : Nat → Nat → List Char
  | 0, _ => []
  | places + 1, n => lastDigits places (n / 10) ++ [Nat.digitChar (n % 10)]

theorem lastDigits_zero (places : Nat) : lastDigits places 0 = List.replicate places '0' := by
  induction places with
  | zero => rfl
  | succ places ih =>
    rw [lastDigits, ih, List.replicate_succ']
    rfl

/-- A number that has no more digits than there are places is written in just these places. -/
theorem toList_padded_of_lt {places n : Nat} (hp : places ≠ 0) (h : n < powerOfTen places) :
    (padded places n).toList = lastDigits places n := by
  induction places generalizing n with
  | zero => exact absurd rfl hp
  | succ places ih =>
    have hbound : n < powerOfTen places * 10 := h
    rw [toList_padded, lastDigits]
    rcases Nat.lt_or_ge n 10 with hn | hn
    · rw [Nat.toDigits_of_lt_base hn, Nat.div_eq_of_lt hn, Nat.mod_eq_of_lt hn, lastDigits_zero]
      rfl
    · have hplaces : places ≠ 0 := by
        rintro rfl
        exact absurd hbound (Nat.not_lt.mpr hn)
      have hrest := ih hplaces (Nat.div_lt_of_lt_mul (Nat.mul_comm _ 10 ▸ hbound))
      rw [toList_padded] at hrest
      rw [Nat.toDigits_of_base_le (by decide) hn, ← hrest, List.length_append, List.append_assoc]
      simp only [List.length_singleton, Nat.add_sub_add_right]

/-- A date and a time of day. -/
structure Moment where
  date : Date
  hours : Nat
  minutes : Nat
  seconds : Nat
  deriving DecidableEq, Repr

namespace Moment

/-- Is it a moment of the years 1 to 9999? -/
structure IsValid (m : Moment) : Prop where
  date : m.date.isValid = true
  year : m.date.year ≤ 9999
  hours : m.hours < 24
  minutes : m.minutes < 60
  seconds : m.seconds < 60

/-- The second of the moment, counted from the first of January 1970. -/
def second (m : Moment) : Int :=
  ((m.date.toDay : Int) - epochDay) * 86400 + m.hours * 3600 + m.minutes * 60 + m.seconds

/-- The weekday of the moment. Days are counted from a Monday. -/
def weekday (m : Moment) : String := weekdayNames.getD (m.date.toDay % 7) ""

def month (m : Moment) : String := monthNames.getD (m.date.month - 1) ""

/-- Weekday, day, month and year, then hours, minutes and seconds. -/
def header (m : Moment) : List Char :=
  m.weekday.toList ++ ',' :: ' ' :: lastDigits 2 m.date.day ++ ' ' :: m.month.toList
    ++ ' ' :: lastDigits 4 m.date.year ++ ' ' :: lastDigits 2 m.hours ++ ':' :: lastDigits 2 m.minutes
    ++ ':' :: lastDigits 2 m.seconds ++ " GMT".toList

/-- The moment a number of seconds after the beginning of the year 1. -/
def ofSeconds (n : Nat) : Moment :=
  ⟨Date.ofDay (n / 86400), n % 86400 / 3600, n % 86400 / 60 % 60, n % 86400 % 60⟩

theorem second_ofSeconds (n : Nat) : (ofSeconds n).second = (n : Int) - epochDay * 86400 := by
  simp only [second, ofSeconds, Date.toDay_ofDay]
  omega

/-- The days that the calendar of headers has are those of the first 9999 years. -/
theorem year_le {day : Nat} (h : day < dayCount) : (Date.ofDay day).year ≤ 9999 := by
  rcases hy : splitYear day with ⟨years, rest⟩
  have hsum := daysBefore_splitYear day
  have hall : daysBefore 9999 = dayCount := by decide
  rw [hy] at hsum
  rw [Date.ofDay_eq hy rfl]
  apply Nat.succ_le_of_lt
  apply Nat.lt_of_not_le
  intro hle
  have hbefore := daysBefore_mono hle
  simp only at hsum
  omega

theorem isValid_ofSeconds {n : Nat} (h : n < dayCount * 86400) : (ofSeconds n).IsValid where
  date := Date.isValid_ofDay _
  year := year_le (by omega)
  hours := by simp only [ofSeconds]; omega
  minutes := Nat.mod_lt _ (by decide)
  seconds := Nat.mod_lt _ (by decide)

/-- A header text shows the moment of its second. -/
theorem toList_headerDate_eq {n : Nat} (h : n < dayCount * 86400) :
    (headerDate n).toList = (ofSeconds n).header := by
  have hvalid := isValid_ofSeconds h
  obtain ⟨years, months, days, hdate, hmonths, hdays⟩ := Date.isValid_iff.mp hvalid.date
  have hday : (ofSeconds n).date.day < powerOfTen 2 := by
    have hle := (monthLengths_bounds (isLeap (years + 1)) hmonths).2
    have hsmall : days + 1 < 100 := by omega
    rw [hdate]
    exact hsmall
  have hyear : (ofSeconds n).date.year < powerOfTen 4 := Nat.lt_succ_of_le hvalid.year
  have htwo {k : Nat} (hk : k < powerOfTen 2) : (padded 2 k).toList = lastDigits 2 k :=
    toList_padded_of_lt (by decide) hk
  have hhours := htwo (Nat.lt_of_lt_of_le hvalid.hours (by decide))
  have hminutes := htwo (Nat.lt_of_lt_of_le hvalid.minutes (by decide))
  have hseconds := htwo (Nat.lt_of_lt_of_le hvalid.seconds (by decide))
  have hweekday : (ofSeconds n).weekday = weekdayNames.getD (n / 86400 % 7) "" := by
    rw [weekday, ofSeconds, Date.toDay_ofDay]
  rw [toList_headerDate, header, hweekday, month, ← htwo hday,
    ← toList_padded_of_lt (by decide) hyear, ← hhours, ← hminutes, ← hseconds]
  simp [ofSeconds]

end Moment

/-- The instants of the years 1 to 9999, from the first millisecond to the last. -/
def InCalendar (n : Int) : Prop := -62135596800000 ≤ n ∧ n ≤ 253402300799999

instance (n : Int) : Decidable (InCalendar n) := inferInstanceAs (Decidable (_ ∧ _))

theorem instantText_of_inCalendar {n : Int} (h : InCalendar n) :
    instantText n = .ok (headerDate (n.fdiv 1000 + epochDay * 86400).toNat) ∧
      (n.fdiv 1000 + epochDay * 86400).toNat < dayCount * 86400 := by
  have hdiv := Int.fdiv_eq_ediv_of_nonneg n (by decide : (0 : Int) ≤ 1000)
  obtain ⟨hfirst, hlast⟩ := h
  have hrange : 0 ≤ n.fdiv 1000 + epochDay * 86400 ∧
      n.fdiv 1000 + epochDay * 86400 < dayCount * 86400 := by
    rw [hdiv]
    simp only [epochDay, dayCount]
    omega
  constructor
  · rw [instantText]
    exact if_pos hrange
  · omega

theorem instantText_of_not_inCalendar {n : Int} (h : ¬InCalendar n) :
    instantText n = .error .dateOutOfRange := by
  have hdiv := Int.fdiv_eq_ediv_of_nonneg n (by decide : (0 : Int) ≤ 1000)
  rw [instantText]
  apply if_neg
  rw [hdiv]
  simp only [InCalendar, epochDay, dayCount] at h ⊢
  omega

theorem exists_instantText_iff {n : Int} : (∃ text, instantText n = .ok text) ↔ InCalendar n := by
  constructor
  · rintro ⟨text, htext⟩
    apply Decidable.byContradiction
    intro hout
    rw [instantText_of_not_inCalendar hout] at htext
    cases htext
  · exact fun h => ⟨_, (instantText_of_inCalendar h).1⟩

/-- Only the second of an instant is written. -/
theorem instantText_eq_iff {n m : Int} (h : InCalendar n) :
    instantText n = instantText m ↔ n.fdiv 1000 = m.fdiv 1000 := by
  constructor
  · intro hsame
    have htext := (instantText_of_inCalendar h).1
    have hn := secondOf?_instantText htext
    have hm := secondOf?_instantText (hsame.symm.trans htext)
    exact Option.some.inj (hn.symm.trans hm)
  · intro hsecond
    rw [instantText, instantText, hsecond]

/-- A field of dates holds one exactly if the integer in it is an instant of the calendar. -/
theorem exists_readDate_iff {field value : Text} :
    (∃ text, readDate field value = .ok text) ↔
      ∃ n, Number.readField field value = .ok n ∧ InCalendar n := by
  rw [readDate]
  cases hread : Number.readField field value with
  | error cause => simp [bind, Except.bind]
  | ok n =>
    simp only [Except.ok.injEq, exists_eq_left', ← exists_instantText_iff]
    cases htext : instantText n <;> simp [bind, Except.bind, htext]

/-- The text of an instant of the years 1 to 9999 shows the moment of its second, as a date that is
reached from the first of January of the year 1, and other instants have no text. -/
theorem instantText_exact (n : Int) :
    (InCalendar n → ∃ text, ∃ moment : Moment, instantText n = .ok text ∧
      text.toList = moment.header ∧ moment.IsValid ∧
      moment.date = Nat.repeat Date.next moment.date.toDay ⟨1, 1, 1⟩ ∧
      moment.second = n.fdiv 1000 ∧ secondOf? text = some (n.fdiv 1000)) ∧
    (¬InCalendar n → instantText n = .error .dateOutOfRange) ∧
    (∀ m, InCalendar n → InCalendar m →
      (instantText n = instantText m ↔ n.fdiv 1000 = m.fdiv 1000)) ∧
    ∀ field value numeral, Numeral.ofSignedList? value.toList = some numeral →
      numeral.digits.length ≤ digitLimit → numeral.toInt = n →
      ((∃ text, readDate field value = .ok text) ↔ InCalendar n) := by
  refine ⟨?_, instantText_of_not_inCalendar, fun m hn _ => instantText_eq_iff hn, ?_⟩
  · intro h
    obtain ⟨htext, hrange⟩ := instantText_of_inCalendar h
    have hvalid := Moment.isValid_ofSeconds hrange
    have hback := secondOf?_instantText htext
    have hsecond := hback.symm.trans (secondOf?_headerDate _)
    refine ⟨_, _, htext, Moment.toList_headerDate_eq hrange, hvalid, Date.eq_repeat hvalid.date, ?_,
      hback⟩
    rw [Moment.second_ofSeconds]
    exact (Option.some.inj hsecond).symm
  · intro field value numeral hread hlimit hn
    have hfield : Number.readField field value = .ok n :=
      Number.readField_eq_ok.mpr ⟨numeral, hread, hlimit, hn⟩
    rw [exists_readDate_iff, hfield]
    simp only [Except.ok.injEq, exists_eq_left']

/-- The last millisecond before 1970 lies in the last second of 1969, a Wednesday; the first one after
the year 9999 has no text. -/
theorem instantText_exact_boundaries :
    (∃ text, ∃ moment : Moment, instantText (-1) = .ok text ∧ text.toList = moment.header ∧
      moment.second = -1 ∧ text = "Wed, 31 Dec 1969 23:59:59 GMT") ∧
    instantText (-1) = instantText (-1000) ∧
    instantText 253402300800000 = .error .dateOutOfRange ∧
    ((∃ text, readDate "last_modified" "253402300799999" = .ok text) ↔
      InCalendar 253402300799999) := by
  obtain ⟨hshown, -, hsame, -⟩ := instantText_exact (-1)
  obtain ⟨text, moment, htext, hheader, -, -, hsecond, -⟩ := hshown (by decide)
  refine ⟨⟨text, moment, htext, hheader, hsecond, ?_⟩,
    (hsame (-1000) (by decide) (by decide)).mpr rfl,
    (instantText_exact 253402300800000).2.1 (by decide), ?_⟩
  · have hclosed : instantText (-1) = .ok "Wed, 31 Dec 1969 23:59:59 GMT" := rfl
    exact Except.ok.inj (htext.symm.trans hclosed)
  · exact (instantText_exact 253402300799999).2.2.2 "last_modified" "253402300799999"
      ⟨false, [2, 5, 3, 4, 0, 2, 3, 0, 0, 7, 9, 9, 9, 9, 9]⟩ (by decide) (by decide) (by decide)

end Calendar

end SearchAppliance
