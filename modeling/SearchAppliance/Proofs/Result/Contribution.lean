import SearchAppliance.Proofs.Result.Digest

namespace SearchAppliance

open Settings (PageOptions)

/-- The fields whose values are texts of the hit. -/
def Field.textual : List Field := [title, description, lastModified, loadDate, body] ++ headings

theorem Field.name_inj {field other : Field} : field.name = other.name ↔ field = other := by
  constructor
  · intro h
    have hnames := ofName?_name field
    rw [h, ofName?_name other] at hnames
    exact (Option.some.inj hnames).symm
  · rintro rfl
    rfl

/-- The tags of the elements that come straight from the values of a hit. -/
def Tag.straight : List Tag := [.url, .encodedUrl, .title, .cacheLastModified, .crawlDate, .language]

namespace Digest

/-- The date that a value is shown as. -/
def dateOf? (entry : Text × Text) : Option String :=
  (Calendar.readDate entry.1 entry.2).toOption

/-- The number that a value is read as. -/
def numberOf? (entry : Text × Text) : Option Int :=
  (Number.readField entry.1 entry.2).toOption

/-- Is a value of a field of dates a date, and one of a field of sizes a number? Values of other
fields are always usable. -/
def isUsable (entry : Text × Text) : Bool :=
  match Field.ofName? entry.1 with
  | some .size => (numberOf? entry).isSome
  | some .lastModified | some .loadDate => (dateOf? entry).isSome
  | _ => true

/-- The elements that a value becomes. -/
def tagsOf (options : PageOptions) (entry : Text × Text) : List (Tag × Text) :=
  match Field.ofName? entry.1 with
  | some .language => [(.language, entry.2)]
  | some .address =>
    (.url, entry.2) :: (secondForm options entry.2).toOption.toList.map (.encodedUrl, ·)
  | some .title => [(.title, entry.2)]
  | some .lastModified => 
    (dateOf? entry).toList.map fun date : String => (.cacheLastModified, (date : Text))
  | some .loadDate => (dateOf? entry).toList.map fun date : String => (.crawlDate, (date : Text))
  | _ => []

/-- The text that a value becomes, dates as they are stored. -/
def textsOf (entry : Text × Text) : List Text :=
  match Field.ofName? entry.1 with
  | some field => if field ∈ Field.textual ∧ isUsable entry then [entry.2] else []
  | none => []

/-- The last usable value of a field. -/
def lastUsable (field : Field) (entries : List (Text × Text)) : Option Text :=
  lastValue field (entries.filter isUsable)

/-- Has the field a usable value? -/
def sets (entries : List (Text × Text)) (field : Field) : Bool :=
  entries.any fun entry : Text × Text => entry.1 = field.name && isUsable entry

/-- The sum of what values contribute. -/
def gathered (options : PageOptions) (entries : List (Text × Text)) : Digest where
  documentId := lastUsable .identifier entries
  address := lastUsable .address entries
  title := lastUsable .title entries
  description := (lastUsable .description entries).getD ""
  size := ((lastUsable .size entries).bind fun value => numberOf? (Field.size.name, value)).getD 0
  lastModified := (lastUsable .lastModified entries).bind fun value =>
    dateOf? (Field.lastModified.name, value)
  loadDate := (lastUsable .loadDate entries).bind fun value => dateOf? (Field.loadDate.name, value)
  language := lastUsable .language entries
  texts := entries.flatMap textsOf
  tags := entries.flatMap (tagsOf options)

/-- A digest continued by another one, which has the last word on the fields that are set. -/
def continued (d : Digest) (isSet : Field → Bool) (next : Digest) : Digest where
  documentId := if isSet .identifier then next.documentId else d.documentId
  address := if isSet .address then next.address else d.address
  title := if isSet .title then next.title else d.title
  description := if isSet .description then next.description else d.description
  size := if isSet .size then next.size else d.size
  lastModified := if isSet .lastModified then next.lastModified else d.lastModified
  loadDate := if isSet .loadDate then next.loadDate else d.loadDate
  language := if isSet .language then next.language else d.language
  texts := d.texts ++ next.texts
  tags := d.tags ++ next.tags

variable {options : PageOptions} {d next last : Digest} {entry : Text × Text}

/-- A field is set exactly if it has a last usable value. -/
theorem sets_eq_isSome (entries : List (Text × Text)) (field : Field) :
    sets entries field = (lastUsable field entries).isSome := by
  rw [lastUsable, lastValue, Option.isSome_map, List.filter_filter, Bool.eq_iff_iff,
    List.getLast?_isSome, ne_eq, List.filter_eq_nil_iff, sets, List.any_eq_true]
  simp only [Bool.and_eq_true, Classical.not_forall, Decidable.not_not, exists_prop]

theorem lastUsable_append (field : Field) (front back : List (Text × Text)) :
    lastUsable field (front ++ back) =
      if sets back field then lastUsable field back else lastUsable field front := by
  rw [sets_eq_isSome, lastUsable, lastValue, List.filter_append, List.filter_append,
    List.getLast?_append, Option.map_or]
  change (lastUsable field back).or (lastUsable field front) = _
  cases lastUsable field back <;> rfl

/-- The sum over two parts of a hit is the sum over the first one, continued by that over the
second. -/
theorem gathered_append (options : PageOptions) (front back : List (Text × Text)) :
    gathered options (front ++ back) =
      (gathered options front).continued (sets back) (gathered options back) := by
  simp only [gathered, continued, lastUsable_append, List.flatMap_append,
    apply_ite (Option.bind · fun value => numberOf? (Field.size.name, value)),
    apply_ite (Option.bind · fun value => dateOf? (Field.lastModified.name, value)),
    apply_ite (Option.bind · fun value => dateOf? (Field.loadDate.name, value)),
    apply_ite (Option.getD · ("" : Text)), apply_ite (Option.getD · (0 : Int))]

/-- Values that set no field and become nothing leave a digest as it was. -/
theorem continued_silent {entries : List (Text × Text)}
    (hsets : ∀ field, sets entries field = false) (htexts : entries.flatMap textsOf = [])
    (htags : entries.flatMap (tagsOf options) = []) :
    d.continued (sets entries) (gathered options entries) = d := by
  simp only [continued, hsets, gathered, htexts, htags, List.append_nil, Bool.false_eq_true,
    if_false]

theorem sets_single (field other : Field) (value : Text) :
    sets [(field.name, value)] other = (decide (field = other) && isUsable (field.name, value)) := by
  simp only [sets, List.any_cons, List.any_nil, Bool.or_false, Text.ofString_inj, Field.name_inj]

theorem lastUsable_single (field other : Field) (value : Text) :
    lastUsable other [(field.name, value)] =
      if field = other ∧ isUsable (field.name, value) then some value else none := by
  cases hu : isUsable (field.name, value) with
  | false => simp [lastUsable, lastValue, hu]
  | true =>
    by_cases h : field = other
    · simp [lastUsable, lastValue, ← h, hu]
    · simp [lastUsable, lastValue, hu, Field.name_inj, h]

/-- One value that is taken in continues a digest by what it contributes. -/
theorem take_continued (h : d.take options entry = .ok next) :
    next = d.continued (sets [entry]) (gathered options [entry]) := by
  obtain ⟨name, value⟩ := entry
  cases hf : Field.ofName? name with
  | none =>
    have hsets : ∀ field, sets [(name, value)] field = false := by
      intro field
      simp [sets, Field.ne_name_of_ofName? hf field]
    rw [continued_silent hsets (by simp [textsOf, hf]) (by simp [tagsOf, hf])]
    rw [take_unknown hf] at h
    exact (Except.ok.inj h).symm
  | some field =>
    obtain rfl := Field.name_of_ofName? hf
    rw [take_name] at h
    simp only [continued, gathered, sets_single, lastUsable_single]
    cases field with
    | lastModified =>
      obtain ⟨date, hd, rfl⟩ := Outcome.map_eq_ok.mp h
      have hdate : dateOf? (Field.lastModified.name, value) = some date := by
        rw [dateOf?, hd]
        rfl
      simp [isUsable, hdate, tagsOf, Field.ofName?_name, textsOf, Field.textual]
    | loadDate =>
      obtain ⟨date, hd, rfl⟩ := Outcome.map_eq_ok.mp h
      have hdate : dateOf? (Field.loadDate.name, value) = some date := by
        rw [dateOf?, hd]
        rfl
      simp [isUsable, hdate, tagsOf, Field.ofName?_name, textsOf, Field.textual]
    | size =>
      obtain ⟨n, hn, rfl⟩ := Outcome.map_eq_ok.mp h
      have hnumber : numberOf? (Field.size.name, value) = some n := by
        rw [numberOf?, hn]
        rfl
      simp [isUsable, hnumber, tagsOf, Field.ofName?_name, textsOf, Field.textual, Field.headings]
    | address =>
      obtain ⟨second, hs, rfl⟩ := Outcome.map_eq_ok.mp h
      have hsecond : (secondForm options value).toOption = some second := by
        rw [hs]
        rfl
      simp [isUsable, tagsOf, hsecond, Field.ofName?_name, textsOf, Field.textual, Field.headings]
    | _ =>
      cases h
      simp [isUsable, tagsOf, tagged, Field.ofName?_name, textsOf, Field.textual, Field.headings]

theorem numeric_of_malformed {cause : Failure} (h : d.take options entry = .error cause)
    (hm : cause.isMalformedField = true) : entry.1 ∈ Field.numericNames := by
  cases refused_of_take h with
  | number hfield _ => exact hfield
  | address _ _ _ hcause => simp [hcause, Failure.isMalformedField] at hm

theorem not_usable_of_malformed {cause : Failure} (h : d.take options entry = .error cause)
    (hm : cause.isMalformedField = true) : isUsable entry = false := by
  have hnumeric := numeric_of_malformed h hm
  obtain ⟨name, value⟩ := entry
  obtain ⟨field, hfield, rfl⟩ := List.mem_map.mp hnumeric
  rw [take_name] at h
  simp only [Field.numeric, List.mem_cons, List.not_mem_nil, or_false] at hfield
  rcases hfield with rfl | rfl | rfl
  · have hn := Outcome.map_eq_error.mp h
    simp [isUsable, Field.ofName?_name, numberOf?, hn, Except.toOption]
  · have hd := Outcome.map_eq_error.mp h
    simp [isUsable, Field.ofName?_name, dateOf?, hd, Except.toOption]
  · have hd := Outcome.map_eq_error.mp h
    simp [isUsable, Field.ofName?_name, dateOf?, hd, Except.toOption]

/-- A value that is not usable contributes nothing. -/
theorem continued_of_not_usable (h : isUsable entry = false) :
    d.continued (sets [entry]) (gathered options [entry]) = d := by
  obtain ⟨name, value⟩ := entry
  cases hf : Field.ofName? name with
  | none =>
    rw [isUsable, hf] at h
    cases h
  | some field =>
    obtain rfl := Field.name_of_ofName? hf
    have htexts : textsOf (field.name, value) = [] := by simp [textsOf, hf, h]
    have htags : tagsOf options (field.name, value) = [] := by
      simp only [isUsable, hf] at h
      simp only [tagsOf, hf]
      cases field with
      | lastModified => simpa using h
      | loadDate => simpa using h
      | size => rfl
      | _ => cases h
    exact continued_silent (fun other => by simp [sets, h]) (by simp [htexts]) (by simp [htags])

/-- In the end a digest is the sum of what the values contribute. -/
theorem ofFields_gathered {fields : Fields} (h : (ofFields options fields).outcome = .ok last) :
    last = gathered options fields.entries := by
  have hstart : ({} : Digest) = gathered options [] := rfl
  refine takeAll_induction (R := fun before d => d = gathered options before) ?_ ?_ hstart h
  · rintro before _ entry next rfl hnext
    rw [gathered_append, take_continued hnext]
  · rintro before _ entry cause rfl hcause hm
    rw [gathered_append, continued_of_not_usable (not_usable_of_malformed hcause hm)]

/-- Only an identifier changes which one is known. -/
theorem take_documentId (h : d.take options entry = .ok next) :
    next.documentId =
      if entry.1 = Field.identifier.name then some entry.2 else d.documentId := by
  obtain ⟨name, value⟩ := entry
  rw [take_continued h]
  by_cases hname : name = Field.identifier.name
  · subst hname
    rw [if_pos rfl]
    rfl
  · simp [continued, sets, hname]

/-- Where no value has to be a number, the last value is the last usable one. -/
theorem lastUsable_eq_lastValue {field : Field} (h : field ∉ Field.numeric)
    (entries : List (Text × Text)) : lastUsable field entries = lastValue field entries := by
  have husable (value : Text) : isUsable (field.name, value) = true := by
    simp only [isUsable, Field.ofName?_name]
    cases field with
    | size | lastModified | loadDate => simp [Field.numeric] at h
    | _ => rfl
  rw [lastUsable, lastValue, lastValue, List.filter_filter]
  congr 2
  refine List.filter_congr fun entry _ => ?_
  by_cases hname : entry.1 = field.name
  · have hentry : isUsable entry = true := by
      rw [← husable entry.2, ← hname]
    simp [hname, hentry]
  · simp [hname]

/-- Does a digest know the last identifier and the last description of the values read so far? -/
structure Knows (entries : List (Text × Text)) (d : Digest) : Prop where
  documentId : d.documentId = lastValue .identifier entries
  description : d.description = (lastValue .description entries).getD ""

/-- Whatever is taken in or left out, in the end the last identifier and the last description are
known. -/
theorem ofFields_knows {fields : Fields} (h : (ofFields options fields).outcome = .ok last) :
    last.Knows fields.entries := by
  rw [ofFields_gathered h]
  constructor
  · exact lastUsable_eq_lastValue (by decide) fields.entries
  · exact congrArg (Option.getD · ("" : Text)) (lastUsable_eq_lastValue (by decide) fields.entries)

theorem straight_of_mem_tagsOf {tag : Tag} {value : Text}
    (h : (tag, value) ∈ tagsOf options entry) : tag ∈ Tag.straight := by
  have hone {α : Type} {form : α → Text} {other : Tag} {values : List α}
      (ho : other ∈ Tag.straight) (ht : (tag, value) ∈ values.map fun v => (other, form v)) :
      tag ∈ Tag.straight := by
    obtain ⟨_, -, hsame⟩ := List.mem_map.mp ht
    cases hsame
    exact ho
  unfold tagsOf at h
  split at h
  · exact @hone _ id _ [entry.2] (by decide) h
  · rcases List.mem_cons.mp h with haddress | hsecond
    · exact @hone _ id _ [entry.2] (by decide) (List.mem_singleton.mpr haddress)
    · exact hone (by decide) hsecond
  · exact @hone _ id _ [entry.2] (by decide) h
  · exact hone (by decide) h
  · exact hone (by decide) h
  · cases h

theorem ofFields_straight {fields : Fields} (h : (ofFields options fields).outcome = .ok last) :
    ∀ tagged ∈ last.tags, tagged.1 ∈ Tag.straight := by
  rw [ofFields_gathered h]
  intro tagged ht
  obtain ⟨entry, -, hentry⟩ := List.mem_flatMap.mp ht
  exact straight_of_mem_tagsOf hentry

/-- The snippet of a digest is the only text that stands in the element for it. -/
theorem snippet_mem_elements {fields : Fields} {d : Digest}
    (h : (ofFields options fields).outcome = .ok d) (snippets : Snippets) (identity : Text)
    (value : Option Text) :
    Element.text Tag.snippet.name value ∈ d.elements snippets identity ↔
      value = some (d.snippet snippets) := by
  have hnames : ∀ tag ∈ Tag.straight, (tag.name : Text) ≠ Tag.snippet.name := by decide
  have hothers : (Tag.snippet.name : Text) ≠ Tag.keymatch.name ∧
      (Tag.snippet.name : Text) ≠ Tag.source.name := by
    decide
  rw [elements, List.mem_append, or_iff_right]
  · simp [hothers]
  · intro hm
    obtain ⟨tagged, ht, he⟩ := List.mem_map.mp hm
    exact hnames tagged.1 (ofFields_straight h tagged ht) (Element.text.inj he).1

end Digest

end SearchAppliance
