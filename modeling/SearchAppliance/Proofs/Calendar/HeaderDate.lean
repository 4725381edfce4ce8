import SearchAppliance.Calendar.Instant
import SearchAppliance.Proofs.Calendar.Date
import SearchAppliance.Proofs.Number.DecimalText
import SearchAppliance.Proofs.Text.Cut

namespace SearchAppliance

namespace Number

/-- The number that a text of digits stands for. -/
def natural? (cs : List Char) : Option Nat :=
  (Numeral.digits? (cs.map .char)).map fun digits => Numeral.magnitude ⟨false, digits⟩

theorem magnitude_replicate (negative : Bool) (zeros : Nat) (digits : List Nat) :
    Numeral.magnitude ⟨negative, List.replicate zeros 0 ++ digits⟩ =
      Numeral.magnitude ⟨negative, digits⟩ := by
  have hzeros : (List.replicate zeros 0).foldl (fun m d => 10 * m + d) 0 = 0 := by
    induction zeros with
    | zero => rfl
    | succ zeros ih => exact ih
  simp only [Numeral.magnitude, List.foldl_append, hzeros]

/-- Zeros in front of its digits do not change a number. -/
theorem natural?_zeros (zeros n : Nat) :
    natural? (List.replicate zeros '0' ++ Nat.toDigits 10 n) = some n := by
  have hdigits : ∀ c ∈ List.replicate zeros '0' ++ Nat.toDigits 10 n, c.isDigit = true := by
    intro c hc
    rcases List.mem_append.mp hc with hz | hd
    · rw [List.eq_of_mem_replicate hz]
      rfl
    · exact isDigit_of_mem_decimal hd
  have hne : List.replicate zeros '0' ++ Nat.toDigits 10 n ≠ [] :=
    List.append_ne_nil_of_right_ne_nil _ Nat.toDigits_ne_nil
  rw [natural?, digits?_of_isDigit hne hdigits, Option.map_some, List.map_append,
    List.map_replicate]
  exact congrArg some ((magnitude_replicate false zeros _).trans (magnitude_decimal false n))

end Number

namespace Calendar

theorem toList_padded (width n : Nat) :
    (padded width n).toList =
      List.replicate (width - (Nat.toDigits 10 n).length) '0' ++ Nat.toDigits 10 n := by
  have hdigits : (toString n).toList = Nat.toDigits 10 n := by
    have h := Number.toList_toString (n : Int)
    rwa [if_neg (by omega), Int.natAbs_natCast] at h
  rw [padded, String.toList_ofList, hdigits]

theorem natural?_padded (width n : Nat) : Number.natural? (padded width n).toList = some n := by
  rw [toList_padded, Number.natural?_zeros]

theorem not_mem_padded {c : Char} (hc : c.isDigit = false) (width n : Nat) :
    c ∉ (padded width n).toList := by
  rw [toList_padded, List.mem_append, not_or]
  constructor
  · intro h
    rw [List.eq_of_mem_replicate h] at hc
    cases hc
  · intro h
    rw [Number.isDigit_of_mem_decimal h] at hc
    cases hc

/-- The second of a date and a time of day, counted from the first of January 1970. The date has to be
one of the calendar, with its weekday before it. -/
def secondAt? (weekday : List Char) (date : Date) (hours minutes seconds : Nat) : Option Int :=
  if date.isValid ∧ weekday = (weekdayNames.getD (date.toDay % 7) "").toList ++ [',']
      ∧ hours < 24 ∧ minutes < 60 ∧ seconds < 60 then
    some (((date.toDay : Int) - epochDay) * 86400 + hours * 3600 + minutes * 60 + seconds)
  else none

/-- The second that a header text stands for. -/
def secondOf? (text : String) : Option Int :=
  match Text.cut ' ' text.toList with
  | [weekday, day, month, year, time, zone] =>
    match Text.cut ':' time with
    | [hours, minutes, seconds] => do
      let date : Date :=
        ⟨← Number.natural? year, monthNames.idxOf (String.ofList month) + 1,
          ← Number.natural? day⟩
      if zone = "GMT".toList then
        secondAt? weekday date (← Number.natural? hours) (← Number.natural? minutes)
          (← Number.natural? seconds)
      else none
    | _ => none
  | _ => none

/-- What holds of the empty name and of all names of a list holds of the name at any place. -/
theorem getD_of_forall {P : String → Prop} (hempty : P "") {names : List String}
    (h : ∀ name ∈ names, P name) (n : Nat) : P (names.getD n "") := by
  rw [List.getD_eq_getElem?_getD]
  cases hn : names[n]? with
  | none => exact hempty
  | some name => exact h name (List.mem_of_getElem? hn)

theorem idxOf_monthNames {n : Nat} (h : n < 12) :
    monthNames.idxOf (monthNames.getD n "") = n := by
  have hall : ∀ n < 12, monthNames.idxOf (monthNames.getD n "") = n := by decide
  exact hall n h

theorem toList_headerDate (seconds : Nat) :
    let day := seconds / 86400
    let time := seconds % 86400
    let date := Date.ofDay day
    (headerDate seconds).toList =
      ((weekdayNames.getD (day % 7) "").toList ++ [',']) ++ ' ' :: ((padded 2 date.day).toList ++
        ' ' :: ((monthNames.getD (date.month - 1) "").toList ++
          ' ' :: ((padded 4 date.year).toList ++ ' ' :: ((padded 2 (time / 3600)).toList ++
            ':' :: ((padded 2 (time / 60 % 60)).toList ++ ':' :: (padded 2 (time % 60)).toList) ++
              ' ' :: "GMT".toList)))) := by
  intro day time date
  have hsame (text : String) : toString text = text := rfl
  simp [headerDate, hsame, day, time, date]

theorem secondAt?_ofDay (day hours minutes seconds : Nat) (hh : hours < 24) (hm : minutes < 60)
    (hs : seconds < 60) :
    secondAt? ((weekdayNames.getD (day % 7) "").toList ++ [',']) (Date.ofDay day) hours minutes
        seconds =
      some (((day : Int) - epochDay) * 86400 + hours * 3600 + minutes * 60 + seconds) := by
  have hback := Date.toDay_ofDay day
  have hvalid := Date.isValid_ofDay day
  generalize Date.ofDay day = date at hback hvalid
  rw [secondAt?, hback, if_pos ⟨hvalid, rfl, hh, hm, hs⟩]

/-- A header text is read as the second that was written. -/
theorem secondOf?_headerDate (seconds : Nat) :
    secondOf? (headerDate seconds) = some ((seconds : Int) - epochDay * 86400) := by
  have hweekday (n : Nat) : ' ' ∉ (weekdayNames.getD n "").toList ++ [','] := by
    rw [List.mem_append, not_or]
    exact ⟨getD_of_forall (P := (' ' ∉ ·.toList)) (by decide) (by decide) n, by decide⟩
  have hmonth (n : Nat) : ' ' ∉ (monthNames.getD n "").toList :=
    getD_of_forall (P := (' ' ∉ ·.toList)) (by decide) (by decide) n
  have hspace (width n : Nat) : ' ' ∉ (padded width n).toList := not_mem_padded rfl width n
  have hcolon (width n : Nat) : ':' ∉ (padded width n).toList := not_mem_padded rfl width n
  have htime (hours minutes seconds : Nat) : ' ' ∉ (padded 2 hours).toList ++
      ':' :: ((padded 2 minutes).toList ++ ':' :: (padded 2 seconds).toList) := by
    simp [hspace]
  have hread := secondAt?_ofDay (seconds / 86400) (seconds % 86400 / 3600)
    (seconds % 86400 / 60 % 60) (seconds % 86400 % 60) (by omega) (by omega) (by omega)
  have hvalid := Date.isValid_ofDay (seconds / 86400)
  rw [secondOf?, toList_headerDate, Text.cut_append (hweekday _), Text.cut_append (hspace 2 _),
    Text.cut_append (hmonth _), Text.cut_append (hspace 4 _), Text.cut_append (htime _ _ _),
    Text.cut_all (by decide)]
  simp only
  rw [Text.cut_append (hcolon 2 _), Text.cut_append (hcolon 2 _), Text.cut_all (hcolon 2 _)]
  generalize Date.ofDay (seconds / 86400) = date at hread hvalid
  obtain ⟨year, month, day⟩ := date
  have hnumber : month - 1 < 12 ∧ month - 1 + 1 = month := by
    simp only [Date.isValid, Bool.and_eq_true, decide_eq_true_eq] at hvalid
    omega
  simp only [natural?_padded, String.ofList_toList, idxOf_monthNames hnumber.1, hnumber.2,
    Option.bind_eq_bind, Option.bind_some, if_true, hread]
  congr 1
  omega

/-- The text of an instant is read as its second, the milliseconds dropped downwards. -/
theorem secondOf?_instantText {n : Int} {text : String} (h : instantText n = .ok text) :
    secondOf? text = some (n.fdiv 1000) := by
  simp only [instantText] at h
  split at h
  · next hrange =>
    rw [← Except.ok.inj h, secondOf?_headerDate]
    congr 1
    omega
  · cases h

example :
    secondOf? "Fri, 31 Dec 1999 23:59:59 GMT" = some 946684799 ∧
      secondOf? "Thu, 31 Dec 1999 23:59:59 GMT" = none := by decide

/-- A later instant is not in an earlier second. -/
theorem second_mono {a b : Int} (h : a ≤ b) : a.fdiv 1000 ≤ b.fdiv 1000 := by
  rw [Int.fdiv_eq_ediv_of_nonneg a (by decide), Int.fdiv_eq_ediv_of_nonneg b (by decide)]
  exact Int.ediv_le_ediv (by decide) h

end Calendar

end SearchAppliance
