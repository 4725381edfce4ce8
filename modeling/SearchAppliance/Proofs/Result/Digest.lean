import SearchAppliance.Proofs.Number.Overlong
import SearchAppliance.Result.Hit

namespace SearchAppliance

open Settings (PageOptions)

namespace Field

/-- The fields whose values have to be numbers. -/
def numeric : List Field := [size, lastModified, loadDate]

def numericNames : List Text := numeric.map (name ·)

theorem mem_numericNames {field : Field} (h : field ∈ numeric) :
    (field.name : Text) ∈ numericNames :=
  List.mem_map_of_mem h

theorem ofName?_name (field : Field) : ofName? field.name = some field := by
  cases field <;> rfl

theorem name_of_ofName? {name : Text} {field : Field} (h : ofName? name = some field) :
    field.name = name := by
  simpa using List.find?_some h

theorem ne_name_of_ofName? {name : Text} (h : ofName? name = none) (field : Field) :
    name ≠ field.name := by
  rintro rfl
  rw [ofName?_name] at h
  cases h

end Field

namespace Digest

/-- Is a value with the name of its field one that is not taken in? -/
def refuses (options : PageOptions) (entry : Text × Text) : Bool := !(take options {} entry).isOk

/-- Whether a value is taken in does not depend on the values before it. -/
theorem take_isOk (options : PageOptions) (d : Digest) (entry : Text × Text) :
    (d.take options entry).isOk = !refuses options entry := by
  rw [refuses, Bool.not_not]
  unfold take
  split
  · rfl
  · split
    · rfl
    · next treatment _ _ => cases treatment <;> simp only [treat, Outcome.isOk_map] <;> rfl
    · rfl

/-- Why a value is not taken in: it is no usable number where it has to be one, or it is an address
that is to be percent-encoded and has surrogates. -/
inductive Refused (options : PageOptions) (entry : Text × Text) (cause : Failure) : Prop where
  | number (field : entry.1 ∈ Field.numericNames)
      (why : Number.Refusal entry.1 entry.2 cause)
  | address (field : entry.1 = Field.address.name) (encoded : options.encodeAddress = true)
      (value : entry.2.isWellFormed = false) (why : cause = .unencodable entry.2)

theorem secondForm_eq_error {options : PageOptions} {value : Text} {cause : Failure}
    (h : secondForm options value = .error cause) :
    options.encodeAddress = true ∧ value.isWellFormed = false ∧ cause = .unencodable value := by
  unfold secondForm at h
  split at h
  · next hencode =>
    have herror := Outcome.map_eq_error.mp h
    unfold Text.encode at herror
    split at herror
    · cases herror
    · next hnone => exact ⟨hencode, Text.string?_eq_none.mp hnone, (Except.error.inj herror).symm⟩
  · cases h

theorem take_unknown {options : PageOptions} {d : Digest} {entry : Text × Text}
    (h : Field.ofName? entry.1 = none) : d.take options entry = .ok d := by
  rw [take, h]

theorem take_name (options : PageOptions) (d : Digest) (field : Field) (value : Text) :
    d.take options (field.name, value) =
      match field.plainTag?, field.treatment? with
      | some tag, _ => .ok (d.tagged field tag value)
      | none, some treatment => d.treat options field.name value treatment
      | none, none => .ok d := by
  cases field <;> rfl

theorem refused_of_take {options : PageOptions} {d : Digest} {entry : Text × Text}
    {cause : Failure} (h : d.take options entry = .error cause) : Refused options entry cause := by
  obtain ⟨name, value⟩ := entry
  cases hf : Field.ofName? name with
  | none =>
    rw [take_unknown hf] at h
    cases h
  | some field =>
    obtain rfl := Field.name_of_ofName? hf
    rw [take_name] at h
    cases field with
    | size =>
      have why := Number.refusal_of_readField (Outcome.map_eq_error.mp h)
      exact .number (Field.mem_numericNames (by decide)) why
    | lastModified | loadDate =>
      have why := Calendar.refusal_of_readDate (Outcome.map_eq_error.mp h)
      exact .number (Field.mem_numericNames (by decide)) why
    | address =>
      obtain ⟨hencode, hnone, hcause⟩ := secondForm_eq_error (Outcome.map_eq_error.mp h)
      exact .address rfl hencode hnone hcause
    | _ => cases h

theorem Refused.isMalformedField_iff {options : PageOptions} {entry : Text × Text}
    {cause : Failure} (h : Refused options entry cause) :
    cause.isMalformedField = true ↔ cause = .malformedField entry.1 entry.2 := by
  cases h with
  | number _ why => exact why.isMalformedField_iff
  | address _ _ _ why => simp [why, Failure.isMalformedField]

variable {options : PageOptions}

theorem Refused.refusal {entry : Text × Text} {cause : Failure} (h : Refused options entry cause)
    (hplain : options.encodeAddress = false) : Number.Refusal entry.1 entry.2 cause := by
  cases h with
  | number _ why => exact why
  | address _ hencode => simp [hplain] at hencode

theorem takeAll_ok (d : Digest) {entries : List (Text × Text)}
    (h : entries.find? (refuses options) = none) :
    ∃ last, (takeAll options d entries).outcome = .ok last := by
  induction entries generalizing d with
  | nil => exact ⟨d, rfl⟩
  | cons entry rest ih =>
    have hno := List.find?_eq_none.mp h
    have hok : (d.take options entry).isOk = true := by
      rw [take_isOk, Bool.not_eq_true']
      simpa using hno entry List.mem_cons_self
    obtain ⟨next, hn⟩ := Outcome.isOk_iff.mp hok
    rw [takeAll, hn]
    exact ih next (List.find?_eq_none.mpr fun e he => hno e (List.mem_cons_of_mem entry he))

/-- Without leave to skip numbers, the first value that is not taken in ends it. -/
theorem takeAll_error (hs : options.strictNumbers = true) (d : Digest)
    {entries : List (Text × Text)} {entry : Text × Text}
    (h : entries.find? (refuses options) = some entry) :
    ∃ cause, (takeAll options d entries).outcome = .error cause ∧ Refused options entry cause := by
  induction entries generalizing d with
  | nil => cases h
  | cons first rest ih =>
    have hisOk := take_isOk options d first
    rw [List.find?_cons] at h
    cases hr : refuses options first with
    | true =>
      rw [hr] at h hisOk
      cases h
      cases ht : d.take options entry with
      | ok next =>
        rw [ht] at hisOk
        cases hisOk
      | error cause =>
        refine ⟨cause, ?_, refused_of_take ht⟩
        rw [takeAll, ht]
        simp only [hs, Bool.not_true, Bool.and_false]
        rfl
    | false =>
      rw [hr] at h hisOk
      obtain ⟨next, hn⟩ := Outcome.isOk_iff.mp hisOk
      rw [takeAll, hn]
      exact ih next h

/-- The identifier that is known after some values: the last one among them. -/
def lastIdentifier (entries : List (Text × Text)) : Option Text :=
  (entries.filter fun entry : Text × Text => entry.1 = Field.identifier.name).getLast?.map (·.2)

/-- The last value of a field. -/
def lastValue (field : Field) (entries : List (Text × Text)) : Option Text :=
  (entries.filter fun entry : Text × Text => entry.1 = field.name).getLast?.map (·.2)

theorem lastValue_concat (field : Field) (entries : List (Text × Text))
    (entry : Text × Text) :
    lastValue field (entries ++ [entry]) =
      if entry.1 = field.name then some entry.2 else lastValue field entries := by
  by_cases h : entry.1 = field.name
  · simp [lastValue, List.filter_append, h]
  · simp [lastValue, List.filter_append, h]

theorem lastIdentifier_concat (entries : List (Text × Text)) (entry : Text × Text) :
    lastIdentifier (entries ++ [entry]) =
      if entry.1 = Field.identifier.name then some entry.2 else lastIdentifier entries :=
  lastValue_concat .identifier entries entry

/-- What holds of the values read so far and the digest by then, and is kept by a value that is
taken in and by one that is left out, holds in the end. -/
theorem takeAll_induction {R : List (Text × Text) → Digest → Prop}
    (taken : ∀ {before d entry next}, R before d → d.take options entry = .ok next →
      R (before ++ [entry]) next)
    (left : ∀ {before d entry cause}, R before d → d.take options entry = .error cause →
      cause.isMalformedField = true → R (before ++ [entry]) d)
    {d last : Digest} {before rest : List (Text × Text)} (hd : R before d)
    (h : (takeAll options d rest).outcome = .ok last) : R (before ++ rest) last := by
  induction rest generalizing d before with
  | nil => rwa [List.append_nil, ← Except.ok.inj h]
  | cons entry rest ih =>
    have hall : before ++ entry :: rest = (before ++ [entry]) ++ rest := by simp
    rw [hall]
    rw [takeAll] at h
    split at h
    · next next hn => exact ih (taken hd hn) h
    · next cause hc =>
      split at h
      · next hleft => exact ih (left hd hc (Bool.and_eq_true_iff.mp hleft).1) h
      · cases h

theorem mem_elements {d : Digest} {snippets : Snippets} {identity : Text}
    {element : Element} (h : element ∈ d.elements snippets identity) :
    (∃ (tag : Tag) (value : Option Text), element = .text tag.name value) ∨
      element = .markup d.features := by
  rw [Digest.elements, List.mem_append, List.mem_map] at h
  simp only [List.mem_cons, List.not_mem_nil, or_false] at h
  rcases h with ⟨entry, -, rfl⟩ | rfl | rfl | rfl | rfl
  · exact Or.inl ⟨entry.1, _, rfl⟩
  · exact Or.inl ⟨.snippet, _, rfl⟩
  · exact Or.inl ⟨.keymatch, _, rfl⟩
  · exact Or.inr rfl
  · exact Or.inl ⟨.source, _, rfl⟩

end Digest

end SearchAppliance
