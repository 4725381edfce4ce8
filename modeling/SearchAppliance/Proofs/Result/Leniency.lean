import SearchAppliance.Proofs.Result.Contribution

namespace SearchAppliance

open Settings (PageOptions)

/-- The options that give up a hit at the first malformed number. -/
def Settings.PageOptions.strict (options : PageOptions) : PageOptions :=
  { options with strictNumbers := true }

/-- The options that leave malformed numbers out. -/
def Settings.PageOptions.lenient (options : PageOptions) : PageOptions :=
  { options with strictNumbers := false }

namespace Digest

/-- Does the treatment of its field refuse the value as one that it cannot use? -/
def malformed (entry : Text × Text) : Bool :=
  match take {} {} entry with
  | .ok _ => false
  | .error cause => cause.isMalformedField

/-- The malformed values, each with its place. -/
def malformedFrom (place : Nat) (entries : List (Text × Text)) :
    List ((Text × Text) × Nat) :=
  (entries.zipIdx place).filter fun value => malformed value.1

/-- What is reported of a value that is left out: its field, the identifier that was known by then,
and the reason. -/
def skip (entries : List (Text × Text)) (value : (Text × Text) × Nat) : Event :=
  .valueSkipped value.1.1 (lastIdentifier (entries.take value.2))
    (.malformedField value.1.1 value.1.2)

/-- The line that is logged of it. -/
def skipLine (entries : List (Text × Text)) (value : (Text × Text) × Nat) : Text :=
  "WARNING:Skipping " ++ value.1.1
    ++ " on hit " ++ (lastIdentifier (entries.take value.2)).getD "None"
    ++ ": Field " ++ Text.Quoted.quoted value.1.1
    ++ " does not hold a usable integer: " ++ Text.Quoted.quoted value.1.2

end Digest

/-- The hit without its malformed values; fields and values keep their order. -/
def Fields.clean (fields : Fields) : Fields :=
  fields.map fun (name, values) =>
    (name, values.filter fun value => !Digest.malformed (name, value))

theorem Fields.entries_clean (fields : Fields) :
    fields.clean.entries = fields.entries.filter fun entry => !Digest.malformed entry := by
  simp only [clean, entries, List.flatMap_map, List.filter_flatMap, List.filter_map]
  rfl

namespace Digest

variable {options : PageOptions} {d last : Digest} {entry : Text × Text}
  {rest : List (Text × Text)} {cause : Failure}

theorem treat_error {field value : Text} {treatment : Treatment} :
    d.treat options field value treatment = .error cause ↔
      treat options {} field value treatment = .error cause := by
  cases treatment with
  | address => simp only [treat, Outcome.map_eq_error]
  | lastModified => simp only [treat, Outcome.map_eq_error]
  | loadDate => simp only [treat, Outcome.map_eq_error]
  | size => simp only [treat, Outcome.map_eq_error]
  | _ => simp [treat]

/-- Why a value is not taken in does not depend on the values before it. -/
theorem take_error : d.take options entry = .error cause ↔ take options {} entry = .error cause := by
  unfold take
  split
  · simp
  · split
    · simp
    · exact treat_error
    · simp

theorem treat_malformed {field value : Text} {treatment : Treatment}
    (hm : cause.isMalformedField = true) :
    treat options {} field value treatment = .error cause ↔
      treat {} {} field value treatment = .error cause := by
  cases treatment with
  | address =>
    have hno (options : PageOptions) : secondForm options value ≠ .error cause := by
      intro h
      obtain ⟨-, -, rfl⟩ := secondForm_eq_error h
      cases hm
    simp only [treat, Outcome.map_eq_error, hno]
  | lastModified => simp only [treat, Outcome.map_eq_error]
  | loadDate => simp only [treat, Outcome.map_eq_error]
  | size => simp only [treat, Outcome.map_eq_error]
  | _ => simp [treat]

/-- Whether a value is malformed does not depend on the options. -/
theorem take_malformed (hm : cause.isMalformedField = true) :
    take options {} entry = .error cause ↔ take {} {} entry = .error cause := by
  unfold take
  split
  · simp
  · split
    · simp
    · exact treat_malformed hm
    · simp

theorem malformed_iff :
    malformed entry = true ↔ d.take options entry = .error (.malformedField entry.1 entry.2) := by
  rw [take_error, take_malformed rfl, malformed]
  cases ht : take {} {} entry with
  | ok next => simp
  | error cause => simp [(refused_of_take ht).isMalformedField_iff]

/-- Options differ in what they do with a value that is refused, not in what they take in. -/
theorem take_strict : d.take options.strict entry = d.take options.lenient entry := by
  unfold take
  split
  · rfl
  · split <;> rfl

/-- One value of a digest that is given in the end: it is taken in, or it is malformed and left
out. -/
theorem takeAll_lenient_cons
    (h : (takeAll options.lenient d (entry :: rest)).outcome = .ok last) :
    (∃ next, malformed entry = false ∧ d.take options.lenient entry = .ok next ∧
      takeAll options.lenient d (entry :: rest) = takeAll options.lenient next rest) ∨
    (malformed entry = true ∧
      takeAll options.lenient d (entry :: rest) = (takeAll options.lenient d rest).after
        (.valueSkipped entry.1 d.documentId (.malformedField entry.1 entry.2))) := by
  have hm := @malformed_iff options.lenient d entry
  cases ht : d.take options.lenient entry with
  | ok next =>
    refine Or.inl ⟨next, ?_, rfl, ?_⟩
    · rw [← Bool.not_eq_true, hm, ht]
      simp
    · rw [takeAll, ht]
  | error cause =>
    have hiff := (refused_of_take ht).isMalformedField_iff
    by_cases hc : cause.isMalformedField = true
    · obtain rfl := hiff.mp hc
      refine Or.inr ⟨hm.mpr ht, ?_⟩
      rw [takeAll, ht]
      rfl
    · rw [takeAll, ht] at h
      simp only [hc, Bool.false_and] at h
      cases h

/-- What is taken in is what a strict reading takes in of the values that are not malformed. -/
theorem takeAll_filter (h : (takeAll options.lenient d rest).outcome = .ok last) :
    takeAll options.strict d (rest.filter fun entry => !malformed entry) = .ok last := by
  induction rest generalizing d with
  | nil =>
    rw [← Except.ok.inj h]
    rfl
  | cons entry rest ih =>
    rcases takeAll_lenient_cons h with ⟨next, hm, ht, he⟩ | ⟨hm, he⟩
    · rw [he] at h
      rw [List.filter_cons_of_pos (by simp [hm]), takeAll, take_strict, ht]
      exact ih h
    · rw [he] at h
      rw [List.filter_cons_of_neg (by simp [hm])]
      exact ih h

/-- Only the numeric fields have malformed values. -/
theorem ne_identifier_of_malformed (h : malformed entry = true) :
    entry.1 ≠ Field.identifier.name := by
  intro he
  have hnumeric := numeric_of_malformed ((@malformed_iff {} {} entry).mp h) rfl
  rw [he] at hnumeric
  exact absurd hnumeric (by decide)

/-- The reports count places from the first value of the hit, the values `before` included. -/
theorem takeAll_events {before : List (Text × Text)}
    (hd : d.documentId = lastIdentifier before)
    (h : (takeAll options.lenient d rest).outcome = .ok last) :
    (takeAll options.lenient d rest).events =
      (malformedFrom before.length rest).map (skip (before ++ rest)) := by
  induction rest generalizing d before with
  | nil => rfl
  | cons entry rest ih =>
    have hall : before ++ entry :: rest = (before ++ [entry]) ++ rest := by simp
    have hnext : before.length + 1 = (before ++ [entry]).length := by simp
    rcases takeAll_lenient_cons h with ⟨next, hm, ht, he⟩ | ⟨hm, he⟩
    · have hid : next.documentId = lastIdentifier (before ++ [entry]) := by
        rw [take_documentId ht, lastIdentifier_concat, hd]
      rw [he] at h ⊢
      rw [malformedFrom, List.zipIdx_cons, List.filter_cons_of_neg (by simp [hm]), hnext, hall]
      exact ih hid h
    · have hid : d.documentId = lastIdentifier (before ++ [entry]) := by
        rw [lastIdentifier_concat, if_neg (ne_identifier_of_malformed hm), hd]
      have hreport : Event.valueSkipped entry.1 d.documentId (.malformedField entry.1 entry.2) =
          skip (before ++ entry :: rest) (entry, before.length) := by
        rw [skip, List.take_left, hd]
      rw [he] at h ⊢
      rw [malformedFrom, List.zipIdx_cons, List.filter_cons_of_pos (by simp [hm]), List.map_cons,
        ← hreport, hnext, hall]
      exact congrArg _ (ih hid h)

/-- A strict reading ends at the first malformed value. -/
theorem takeAll_first {first : Text × Text}
    (h : (takeAll options.lenient d rest).outcome = .ok last)
    (hf : rest.find? malformed = some first) :
    takeAll options.strict d rest = .fail (.malformedField first.1 first.2) := by
  induction rest generalizing d with
  | nil => cases hf
  | cons entry rest ih =>
    rcases takeAll_lenient_cons h with ⟨next, hm, ht, he⟩ | ⟨hm, he⟩
    · rw [List.find?_cons_of_neg (by simp [hm])] at hf
      rw [he] at h
      rw [takeAll, take_strict, ht]
      exact ih h hf
    · rw [List.find?_cons_of_pos hm] at hf
      obtain rfl := Option.some.inj hf
      rw [takeAll, malformed_iff.mp hm]
      rfl

theorem message_malformedField (field value : Text) :
    (Failure.malformedField field value).message =
      "Field " ++ Text.Quoted.quoted field ++ " does not hold a usable integer: "
        ++ Text.Quoted.quoted value := rfl

theorem line_skip (entries : List (Text × Text)) (value : (Text × Text) × Nat) :
    (skip entries value).line = skipLine entries value := by
  rw [skip, Event.line, Event.message, message_malformedField]
  apply Text.toList_inj.mp
  simp [skipLine, Event.level, Event.orNone]

theorem head?_malformedFrom (place : Nat) (entries : List (Text × Text)) :
    (malformedFrom place entries).head?.map (·.1) = entries.find? malformed := by
  induction entries generalizing place with
  | nil => rfl
  | cons entry rest ih =>
    rw [malformedFrom, List.zipIdx_cons]
    cases hm : malformed entry with
    | true =>
      rw [List.filter_cons_of_pos (by simpa using hm), List.find?_cons_of_pos hm]
      rfl
    | false =>
      rw [List.filter_cons_of_neg (by simp [hm]), List.find?_cons_of_neg (by simp [hm])]
      exact ih (place + 1)

theorem malformedFrom_eq_nil {place : Nat} {entries : List (Text × Text)} :
    malformedFrom place entries = [] ↔ entries.find? malformed = none := by
  rw [← head?_malformedFrom place, Option.map_eq_none_iff, List.head?_eq_none_iff]

/-- Leaving malformed values out gives the strict digest of the hit without them. Each of them is
reported in its place, and the first of them is why a strict digest of the hit itself fails; if there
is none, the two digests are the same and nothing is reported. -/
theorem ofFields_lenient (options : PageOptions) (fields : Fields) (last : Digest)
    (h : (ofFields options.lenient fields).outcome = .ok last) :
    let skipped := malformedFrom 0 fields.entries
    let strict := ofFields options.strict fields
    let lenient := ofFields options.lenient fields
    ofFields options.strict fields.clean = .ok last ∧
      fields.clean.entries = fields.entries.filter (fun entry => !malformed entry) ∧
      lenient.events = skipped.map (skip fields.entries) ∧
      lenient.events.map Event.line = skipped.map (skipLine fields.entries) ∧
      ((∃ field value, strict.outcome = .error (.malformedField field value)) ↔ skipped ≠ []) ∧
      (∀ first, skipped.head? = some first →
        strict.outcome = .error (.malformedField first.1.1 first.1.2)) ∧
      (skipped = [] → strict = .ok last ∧ lenient.events = []) := by
  intro skipped strict lenient
  have hclean : ofFields options.strict fields.clean = .ok last := by
    rw [ofFields, Fields.entries_clean]
    exact takeAll_filter h
  have hstart : ({} : Digest).documentId = lastIdentifier [] := rfl
  have hevents : lenient.events = skipped.map (skip fields.entries) := takeAll_events hstart h
  have hfirst : ∀ first, skipped.head? = some first →
      strict.outcome = .error (.malformedField first.1.1 first.1.2) := by
    intro first hhead
    have hfind : fields.entries.find? malformed = some first.1 := by
      rw [← head?_malformedFrom 0, hhead]
      rfl
    exact congrArg Logged.outcome (takeAll_first h hfind)
  have hnone : skipped = [] → strict = .ok last ∧ lenient.events = [] := by
    intro hnil
    have hfind := List.find?_eq_none.mp (malformedFrom_eq_nil.mp hnil)
    have hall : fields.entries.filter (fun entry => !malformed entry) = fields.entries :=
      List.filter_eq_self.mpr fun entry he => by simpa using hfind entry he
    refine ⟨?_, by rw [hevents, hnil]; rfl⟩
    have hstrict := hclean
    rw [ofFields, Fields.entries_clean, hall] at hstrict
    exact hstrict
  refine ⟨hclean, fields.entries_clean, hevents, ?_, ⟨?_, ?_⟩, hfirst, hnone⟩
  · rw [hevents, List.map_map]
    exact List.map_congr_left fun value _ => line_skip fields.entries value
  · rintro ⟨field, value, he⟩ hnil
    rw [(hnone hnil).1] at he
    cases he
  · intro hne
    obtain ⟨first, hhead⟩ := Option.ne_none_iff_exists'.mp (mt List.head?_eq_none_iff.mp hne)
    exact ⟨_, _, hfirst first hhead⟩

/-- Two of three numbers are malformed, the first of them before the identifier is known. -/
theorem ofFields_two_skipped :
    let options : PageOptions := {}
    let fields : Fields :=
      [("size_i", ["12x", "2048"]), ("id", ["a"]), ("last_modified", ["soon"])]
    let last : Digest := { documentId := some "a", size := 2048 }
    (ofFields options.lenient fields).outcome = .ok last ∧
      ofFields options.strict [("size_i", ["2048"]), ("id", ["a"]), ("last_modified", [])] =
        .ok last ∧
      (ofFields options.lenient fields).events = [
        .valueSkipped "size_i" none (.malformedField "size_i" "12x"),
        .valueSkipped "last_modified" (some "a") (.malformedField "last_modified" "soon")] ∧
      (ofFields options.strict fields).outcome = .error (.malformedField "size_i" "12x") := by
  intro options fields last
  have h : (ofFields options.lenient fields).outcome = .ok last := rfl
  obtain ⟨hclean, -, hevents, -, -, hfirst, -⟩ := ofFields_lenient options fields last h
  have hskipped : malformedFrom 0 fields.entries =
      ([(("size_i", "12x"), 0), (("last_modified", "soon"), 3)] : List ((Text × Text) × Nat)) := rfl
  refine ⟨h, hclean, ?_, hfirst (("size_i", "12x"), 0) (by rw [hskipped]; rfl)⟩
  rw [hevents, hskipped]
  rfl

end Digest

end SearchAppliance
