import SearchAppliance.Proofs.Calendar.HeaderDate
import SearchAppliance.Proofs.Index.Identifier

namespace SearchAppliance

open Settings (PageOptions)

namespace Digest

/-- The dates of last change that a result shows, in order. -/
def changeDates (d : Digest) : List Text :=
  (d.tags.filter fun tag => tag.1 = .cacheLastModified).map (·.2)

variable {options : PageOptions} {d : Digest}

/-- Only a value of the field of last change has such a date. -/
theorem changeDates_tagsOf (options : PageOptions) (entry : Text × Text) :
    ((tagsOf options entry).filter fun tag => tag.1 = .cacheLastModified).map (·.2) =
      (([entry].filter fun entry : Text × Text => entry.1 = Field.lastModified.name).filterMap
        dateOf?).map .ofString := by
  obtain ⟨name, value⟩ := entry
  cases hf : Field.ofName? name with
  | none =>
    have hname : name ≠ Field.lastModified.name := Field.ne_name_of_ofName? hf .lastModified
    simp [tagsOf, hf, hname]
  | some field =>
    obtain rfl := Field.name_of_ofName? hf
    simp only [tagsOf, hf]
    cases field with
    | lastModified => cases hd : dateOf? (Field.lastModified.name, value) <;> simp [hd]
    | loadDate => cases dateOf? (Field.loadDate.name, value) <;> simp [Field.name]
    | _ => simp [Field.name]

/-- A result shows the dates of all values that have one. -/
theorem ofFields_changeDates {fields : Fields} (hd : fields.Distinct)
    (h : (ofFields options fields).outcome = .ok d) :
    d.changeDates = ((fields.values Field.lastModified.name).filterMap fun value =>
      dateOf? (Field.lastModified.name, value)).map .ofString := by
  have hall (entries : List (Text × Text)) :
      ((entries.flatMap (tagsOf options)).filter fun tag => tag.1 = .cacheLastModified).map (·.2) =
        ((entries.filter fun entry : Text × Text => entry.1 = Field.lastModified.name).filterMap
          dateOf?).map .ofString := by
    induction entries with
    | nil => rfl
    | cons entry rest ih =>
      rw [List.flatMap_cons, List.filter_append, List.map_append, ih, changeDates_tagsOf,
        ← List.map_append, ← List.filterMap_append, ← List.filter_append]
      rfl
  rw [changeDates, ofFields_gathered h]
  refine (hall fields.entries).trans ?_
  rw [Fields.entries_filter hd, List.filterMap_map]
  rfl

/-- The second that the first date of last change in a result stands for. -/
def shownSecond? (d : Digest) : Option Int := 
  d.changeDates.head?.bind fun date => date.string?.bind Calendar.secondOf?

end Digest

end SearchAppliance
