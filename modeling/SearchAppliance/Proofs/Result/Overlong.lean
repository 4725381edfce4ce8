import SearchAppliance.Proofs.Number.DecimalText
import SearchAppliance.Proofs.Result.Leniency

namespace SearchAppliance

open Settings (PageOptions)

theorem Calendar.instantText_error {n : Int} {cause : Failure}
    (h : instantText n = .error cause) : cause = .dateOutOfRange := by
  simp only [instantText] at h
  split at h
  · cases h
  · exact (Except.error.inj h).symm

namespace Digest

/-- The digits of a value that has more of them than are read, in a field whose values have to be
numbers. -/
def overlong? (entry : Text × Text) : Option Nat :=
  if entry.1 ∈ Field.numericNames then
    ((Number.Numeral.ofSignedList? entry.2.toList).map (·.digits.length)).filter
      (Number.digitLimit < ·)
  else none

/-- The failure with which a value ends a digest that leaves malformed values out: a numeral has too
many digits, or an address that is to be percent-encoded has surrogates. -/
def fatal? (options : PageOptions) (entry : Text × Text) : Option Failure :=
  if entry.1 = Field.address.name then
    if options.encodeAddress && !entry.2.isWellFormed then some (.unencodable entry.2) else none
  else (overlong? entry).map .numeralTooLong

/-- Is the value no number, or in a field of dates a number that no date has? Numerals with too many
digits are not meant. -/
def Unusable (entry : Text × Text) : Prop :=
  entry.1 ∈ Field.numericNames ∧
    ∀ n, Number.Numeral.ofSignedList? entry.2.toList = some n →
      n.digits.length ≤ Number.digitLimit ∧ entry.1 ≠ Field.size.name ∧
        Calendar.instantText n.toInt = .error .dateOutOfRange

variable {options : PageOptions} {d last : Digest} {entry : Text × Text}
  {entries front rest : List (Text × Text)} {digits : Nat}

theorem overlong?_eq_some : overlong? entry = some digits ↔
    entry.1 ∈ Field.numericNames ∧
      ∃ n, Number.Numeral.ofSignedList? entry.2.toList = some n ∧
        Number.digitLimit < n.digits.length ∧ n.digits.length = digits := by
  unfold overlong?
  split
  · next hname =>
    rw [Option.filter_eq_some_iff, Option.map_eq_some_iff]
    constructor
    · rintro ⟨⟨n, hn, rfl⟩, hlong⟩
      exact ⟨hname, n, hn, of_decide_eq_true hlong, rfl⟩
    · rintro ⟨-, n, hn, hlong, rfl⟩
      exact ⟨⟨n, hn, rfl⟩, decide_eq_true hlong⟩
  · next hname => simp [hname]

/-- What the value of a numeric field does to a digest depends on the number or the date that is
read. -/
theorem take_numeric {field : Field} {value : Text} {cause : Failure}
    (h : field ∈ Field.numeric) :
    d.take options (field.name, value) = .error cause ↔
      (if field = .size then (Number.readField field.name value).map toString
        else Calendar.readDate field.name value) = .error cause := by
  rw [take_name]
  simp only [Field.numeric, List.mem_cons, List.not_mem_nil, or_false] at h
  rcases h with rfl | rfl | rfl
  · exact Outcome.map_eq_error.trans Outcome.map_eq_error.symm
  · exact Outcome.map_eq_error
  · exact Outcome.map_eq_error

theorem take_of_overlong (h : overlong? entry = some digits) :
    d.take options entry = .error (.numeralTooLong digits) := by
  obtain ⟨name, value⟩ := entry
  obtain ⟨hname, n, hn, hlong, rfl⟩ := overlong?_eq_some.mp h
  obtain ⟨field, hfield, rfl⟩ := List.mem_map.mp hname
  rw [take_numeric hfield, Calendar.readDate, Number.readField_of_overlong hn hlong]
  split <;> rfl

/-- The malformed values are the unusable ones. -/
theorem malformed_iff_unusable : malformed entry = true ↔ Unusable entry := by
  obtain ⟨name, value⟩ := entry
  rw [@malformed_iff {} {}]
  by_cases hname : name ∈ Field.numericNames
  · obtain ⟨field, hfield, rfl⟩ := List.mem_map.mp hname
    rw [take_numeric hfield, Unusable, and_iff_right hname, Calendar.readDate]
    cases hn : Number.Numeral.ofSignedList? value.toList with
    | none =>
      rw [Number.readField_of_none hn]
      split <;> exact iff_of_true rfl nofun
    | some n =>
      have hsize : (field.name : Text) ≠ Field.size.name ↔ field ≠ .size := by cases field <;> decide
      simp only [Option.some.injEq, forall_eq', hsize]
      rcases Nat.lt_or_ge Number.digitLimit n.digits.length with hlong | hle
      · rw [Number.readField_of_overlong hn hlong]
        split <;> simp [bind, Except.bind, Except.map, Nat.not_le.mpr hlong]
      · rw [Number.readField_eq_ok.mpr ⟨n, hn, hle, rfl⟩]
        by_cases hs : field = .size
        · simp [hs, Except.map]
        · rw [if_neg hs]
          cases ht : Calendar.instantText n.toInt with
          | ok text => simp [bind, Except.bind, ht]
          | error cause =>
            obtain rfl := Calendar.instantText_error ht
            simp [bind, Except.bind, ht, hs, hle]
  · constructor
    · exact fun h => absurd (numeric_of_malformed h rfl) hname
    · exact fun h => absurd h.1 hname

theorem fatal?_eq_none : fatal? options entry = none ↔ overlong? entry = none ∧
    (options.encodeAddress = true → entry.1 = Field.address.name →
      entry.2.isWellFormed = true) := by
  unfold fatal?
  split
  · next hname =>
    have hlong : overlong? entry = none := by
      rw [overlong?, if_neg (by rw [hname]; decide)]
    simp [hname, hlong]
  · next hname => simp [hname]

theorem take_of_fatal {cause : Failure} (h : fatal? options entry = some cause) :
    d.take options entry = .error cause := by
  obtain ⟨name, value⟩ := entry
  unfold fatal? at h
  split at h
  · next hname =>
    obtain rfl : name = Field.address.name := hname
    split at h
    · next hbad =>
      rw [Bool.and_eq_true, Bool.not_eq_true'] at hbad
      have hsecond : secondForm options value = .error (.unencodable value) := by
        rw [secondForm, if_pos hbad.1, Text.encode, Text.string?_eq_none.mpr hbad.2]
        rfl
      rw [take_name, ← Option.some.inj h]
      exact Outcome.map_eq_error.mpr hsecond
    · cases h
  · obtain ⟨digits, hlong, rfl⟩ := Option.map_eq_some_iff.mp h
    exact take_of_overlong hlong

/-- A value is taken in, or it is malformed, or it ends the digest. -/
theorem take_cases (options : PageOptions) (d : Digest) (entry : Text × Text) :
    (fatal? options entry = none ∧ malformed entry = false ∧
      ∃ next, d.take options entry = .ok next) ∨
    (fatal? options entry = none ∧ malformed entry = true ∧
      d.take options entry = .error (.malformedField entry.1 entry.2)) ∨
    ∃ cause, fatal? options entry = some cause ∧ cause.isMalformedField = false ∧
      d.take options entry = .error cause := by
  have hm := @malformed_iff options d entry
  cases hf : fatal? options entry with
  | some cause =>
    refine Or.inr (Or.inr ⟨cause, rfl, ?_, take_of_fatal hf⟩)
    unfold fatal? at hf
    split at hf
    · split at hf
      · rw [← Option.some.inj hf]
        rfl
      · cases hf
    · obtain ⟨digits, -, rfl⟩ := Option.map_eq_some_iff.mp hf
      rfl
  | none =>
    cases ht : d.take options entry with
    | ok next =>
      rw [ht] at hm
      exact Or.inl ⟨rfl, by simpa using hm, next, rfl⟩
    | error cause =>
      cases refused_of_take ht with
      | address hname hencode hvalue _ => simp [fatal?, hname, hencode, hvalue] at hf
      | number hname why =>
        have hlong : ¬Number.Overlong entry.2 := by
          rintro ⟨n, hn, hlong⟩
          have hsome := overlong?_eq_some.mpr ⟨hname, n, hn, hlong, rfl⟩
          have hother : entry.1 ≠ Field.address.name := by
            intro he
            rw [he] at hname
            exact absurd hname (by decide)
          simp [fatal?, hother, hsome] at hf
        obtain rfl := why.unusable hlong
        exact Or.inr (Or.inl ⟨rfl, hm.mpr ht, rfl⟩)

/-- Without a value that ends it a digest is given, whatever else the values are. -/
theorem takeAll_lenient_ok (options : PageOptions) (d : Digest)
    (h : ∀ entry ∈ entries, fatal? options.lenient entry = none) :
    ∃ last, (takeAll options.lenient d entries).outcome = .ok last := by
  induction entries generalizing d with
  | nil => exact ⟨d, rfl⟩
  | cons entry rest ih =>
    have hrest : ∀ entry ∈ rest, fatal? options.lenient entry = none :=
      fun other hm => h other (List.mem_cons_of_mem entry hm)
    rcases take_cases options.lenient d entry with ⟨-, -, next, ht⟩ | ⟨-, -, ht⟩ | ⟨cause, hf, -⟩
    · rw [takeAll, ht]
      exact ih next hrest
    · obtain ⟨last, hl⟩ := ih d hrest
      rw [takeAll, ht]
      exact ⟨last, hl⟩
    · rw [h entry List.mem_cons_self] at hf
      cases hf

/-- The first value that ends a digest ends it with the reports of what came before. -/
theorem takeAll_lenient_stop (options : PageOptions) (d : Digest) (rest : List (Text × Text))
    {cause : Failure} (hfront : ∀ entry ∈ front, fatal? options.lenient entry = none)
    (h : fatal? options.lenient entry = some cause) :
    takeAll options.lenient d (front ++ entry :: rest) =
      ⟨(takeAll options.lenient d front).events, .error cause⟩ := by
  induction front generalizing d with
  | nil =>
    rcases take_cases options.lenient d entry with ⟨hnone, -⟩ | ⟨hnone, -⟩ | ⟨other, ho, hm, ht⟩
    · rw [h] at hnone
      cases hnone
    · rw [h] at hnone
      cases hnone
    · obtain rfl : cause = other := Option.some.inj (h.symm.trans ho)
      have hstop : takeAll options.lenient d (entry :: rest) = .fail cause := by
        rw [takeAll, ht]
        simp only [hm, Bool.false_and]
        rfl
      exact hstop
  | cons first front ih =>
    have hrest : ∀ entry ∈ front, fatal? options.lenient entry = none :=
      fun other hm => hfront other (List.mem_cons_of_mem first hm)
    rw [List.cons_append, takeAll, takeAll]
    rcases take_cases options.lenient d first with ⟨-, -, next, ht⟩ | ⟨-, -, ht⟩ | ⟨other, ho, -⟩
    · rw [ht]
      exact ih next hrest
    · rw [ht]
      exact congrArg (Logged.after _) (ih d hrest)
    · rw [hfront first List.mem_cons_self] at ho
      cases ho

/-- A digest that leaves malformed values out is given exactly if no number or date has too many
digits and no address that is to be percent-encoded has surrogates. -/
theorem ofFields_lenient_iff (options : PageOptions) (fields : Fields) :
    let digest := ofFields options.lenient fields
    ((∃ last, digest.outcome = .ok last) ↔ ∀ entry ∈ fields.entries, overlong? entry = none ∧
      (options.encodeAddress = true → entry.1 = Field.address.name →
        entry.2.isWellFormed = true)) ∧
      (∀ last, digest.outcome = .ok last →
        ofFields options.strict fields.clean = .ok last ∧
          digest.events = (malformedFrom 0 fields.entries).map (skip fields.entries)) ∧
      (∀ front entry rest cause, fields.entries = front ++ entry :: rest →
        (∀ earlier ∈ front, fatal? options earlier = none) → fatal? options entry = some cause →
          digest = ⟨(malformedFrom 0 front).map (skip front), .error cause⟩) ∧
      (∀ snippets identity, (fields.elements options.lenient snippets identity).outcome =
        digest.outcome.map (·.elements snippets identity)) ∧
      ∀ entry, malformed entry = true ↔ Unusable entry := by
  intro digest
  have hstart : ({} : Digest).documentId = lastIdentifier [] := rfl
  have hstop : ∀ front entry rest cause, fields.entries = front ++ entry :: rest →
      (∀ earlier ∈ front, fatal? options earlier = none) → fatal? options entry = some cause →
        digest = ⟨(malformedFrom 0 front).map (skip front), .error cause⟩ := by
    intro front entry rest cause hsplit hfront hfatal
    obtain ⟨last, hlast⟩ := takeAll_lenient_ok options {} hfront
    have hevents : (takeAll options.lenient {} front).events =
        (malformedFrom 0 front).map (skip front) := takeAll_events hstart hlast
    rw [← hevents, ← takeAll_lenient_stop options {} rest hfront hfatal, ← hsplit]
    rfl
  have hgiven : (∃ last, digest.outcome = .ok last) ↔
      ∀ entry ∈ fields.entries, fatal? options entry = none := by
    refine ⟨?_, fun h => takeAll_lenient_ok options {} h⟩
    rintro ⟨last, hlast⟩
    rw [← List.findSome?_eq_none_iff]
    cases hsome : fields.entries.findSome? (fatal? options) with
    | none => rfl
    | some cause =>
      obtain ⟨front, entry, rest, hsplit, hfatal, hfront⟩ := List.findSome?_eq_some_iff.mp hsome
      rw [hstop front entry rest cause hsplit hfront hfatal] at hlast
      cases hlast
  refine ⟨?_, ?_, hstop, fun _ _ => rfl, fun entry => malformed_iff_unusable⟩
  · simp only [hgiven, fatal?_eq_none]
  · intro last hlast
    refine ⟨?_, takeAll_events hstart hlast⟩
    rw [ofFields, Fields.entries_clean]
    exact takeAll_filter hlast

theorem overlong?_replicate (h : Number.digitLimit < digits) :
    overlong? ("size_i", Text.ofList (List.replicate digits '9')) = some digits := by
  have hread := (Number.read_nines (Nat.ne_zero_of_lt h)).2
  refine overlong?_eq_some.mpr ⟨List.mem_cons_self, _, by rwa [Text.toList_ofList], ?_, ?_⟩
  · simpa using h
  · simp

/-- A size of 4301 digits gives up a hit that could do without it. -/
theorem ofFields_overlong_size :
    let options : PageOptions := { strictNumbers := false }
    let fields : Fields := [("id", ["a"]), ("size_i", [Text.ofList (List.replicate 4301 '9')])]
    ofFields options fields = .fail (.numeralTooLong 4301) ∧
      (fields.elements options [] "node").outcome = .error (.numeralTooLong 4301) ∧
      ¬∃ last, (ofFields options fields).outcome = .ok last := by
  intro options fields
  have hlong : fatal? options.lenient ("size_i", Text.ofList (List.replicate 4301 '9')) =
      some (.numeralTooLong 4301) := by
    rw [fatal?, if_neg (by decide), overlong?_replicate (by decide)]
    rfl
  have hid : ∀ earlier ∈ ([("id", "a")] : List (Text × Text)),
      fatal? options.lenient earlier = none := by decide
  have hdigest : ofFields options fields = .fail (.numeralTooLong 4301) :=
    takeAll_lenient_stop options {} [] hid hlong
  refine ⟨hdigest, ?_, ?_⟩
  · rw [Fields.elements, hdigest]
    rfl
  · rw [hdigest]
    rintro ⟨last, hlast⟩
    cases hlast

end Digest

end SearchAppliance
