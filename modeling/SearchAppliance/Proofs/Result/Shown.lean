import SearchAppliance.Proofs.Result.Contribution
import SearchAppliance.Proofs.Text.XmlChar

namespace SearchAppliance

open Settings (PageOptions)
open Text (Has isXmlChar isXmlText)

namespace Field

/-- The fields of which every value stands in a result. -/
def shown : List Field := [address, title, language]

def shownNames : List Text := shown.map (name ·)

end Field

namespace Digest

/-- The values of the fields of which every value stands in a result. -/
def shownValues (entries : List (Text × Text)) : List Text :=
  (entries.filter fun entry => Field.shownNames.contains entry.1).map (·.2)

theorem shownValues_cons (entry : Text × Text) (rest : List (Text × Text)) :
    shownValues (entry :: rest) =
      (if entry.1 ∈ Field.shownNames then [entry.2] else []) ++ shownValues rest := by
  rw [shownValues, shownValues]
  by_cases h : entry.1 ∈ Field.shownNames
  · rw [List.filter_cons_of_pos (by simpa using h), if_pos h]
    rfl
  · rw [List.filter_cons_of_neg (by simpa using h), if_neg h]
    rfl

/-- Does a digest have a character that no XML document has just where the values read so far have
it? -/
structure Shows (c : CodePoint) (entries : List (Text × Text)) (d : Digest) : Prop where
  documentId : d.documentId = lastValue .identifier entries
  description : d.description = (lastValue .description entries).getD ""
  tags : Has (d.tags.map (·.2)) c ↔ Has (shownValues entries) c

variable {options : PageOptions} {d : Digest} {c : CodePoint}

/-- The elements of a value have characters that no XML document has only if the value has, and only
in three fields: dates and encoded addresses have none. -/
theorem has_tagsOf (hc : isXmlChar c = false) (options : PageOptions) (entry : Text × Text) :
    Has ((tagsOf options entry).map (·.2)) c ↔
      entry.1 ∈ Field.shownNames ∧ c ∈ entry.2.toList := by
  obtain ⟨name, value⟩ := entry
  cases hf : Field.ofName? name with
  | none =>
    have hname : name ∉ Field.shownNames := by
      intro hm
      obtain ⟨field, -, hn⟩ := List.mem_map.mp hm
      exact Field.ne_name_of_ofName? hf field hn.symm
    simp [tagsOf, hf, hname]
  | some field =>
    obtain rfl := Field.name_of_ofName? hf
    have hdate (tag : Tag) :
        ¬Has (((dateOf? (field.name, value)).toList.map fun date : String =>
          (tag, (date : Text))).map (·.2)) c := by
      cases hread : Calendar.readDate field.name value with
      | error cause => simp [dateOf?, hread, Except.toOption]
      | ok date =>
        simpa [dateOf?, hread, Except.toOption] using
          Text.not_mem_of_isXmlText hc (Calendar.isXmlText_readDate hread)
    simp only [tagsOf, hf]
    cases field with
    | lastModified => exact iff_of_false (hdate _) (fun h => absurd h.1 (by decide))
    | loadDate => exact iff_of_false (hdate _) (fun h => absurd h.1 (by decide))
    | address =>
      have hname : (Field.address.name : Text) ∈ Field.shownNames := by decide
      cases hs : secondForm options value with
      | error cause => simp [Except.toOption, hname]
      | ok second =>
        unfold secondForm at hs
        split at hs
        · obtain ⟨s, -, rfl⟩ := Outcome.map_eq_ok.mp hs
          have hencoded := Text.not_mem_of_isXmlText hc (Text.Percent.isXmlText_encoded s)
          simp [Except.toOption, hname, hencoded, -Text.toList_ofString]
        · obtain rfl := Except.ok.inj hs
          simp [Except.toOption, hname]
    | _ => simp [Field.shownNames, Field.shown, Field.name]

theorem has_tags (hc : isXmlChar c = false) (options : PageOptions)
    (entries : List (Text × Text)) :
    Has ((entries.flatMap (tagsOf options)).map (·.2)) c ↔ Has (shownValues entries) c := by
  induction entries with
  | nil => rfl
  | cons entry rest ih =>
    rw [List.flatMap_cons, List.map_append, Text.has_append, has_tagsOf hc, shownValues_cons,
      Text.has_append, ih]
    by_cases h : entry.1 ∈ Field.shownNames <;> simp [h]

theorem ofFields_shows (hc : isXmlChar c = false) {fields : Fields}
    (h : (ofFields options fields).outcome = .ok d) : d.Shows c fields.entries where
  documentId := (ofFields_knows h).documentId
  description := (ofFields_knows h).description
  tags := by
    rw [ofFields_gathered h]
    exact has_tags hc options fields.entries

end Digest

/-- The texts of a hit that stand in its result: its addresses, titles and languages, its last
identifier, its last description, and the first fragment that stands under that identifier. -/
def Fields.shownTexts (snippets : Snippets) (hit : Fields) : List Text :=
  let id := Digest.lastValue .identifier hit.entries
  Digest.shownValues hit.entries ++ id.toList
    ++ (Digest.lastValue .description hit.entries).toList
    ++ ((id.bind fun id => Pairs.get? id snippets).bind List.head?).toList

/-- A result has a character that no XML document has exactly if one of these texts has it. -/
theorem Digest.Shows.has_shownTexts {c : CodePoint} {hit : Fields} {d : Digest}
    (h : d.Shows c hit.entries) (snippets : Snippets) :
    Has (hit.shownTexts snippets) c ↔ Has (d.tags.map (·.2)) c ∨ c ∈ (d.documentId.getD "").toList ∨
      c ∈ (d.snippet snippets).toList ∨ c ∈ d.description.toList := by
  rw [Fields.shownTexts, ← h.documentId, snippet, h.description]
  simp only [Text.has_append, h.tags, Text.has_toList]
  cases (d.documentId.bind fun id => Pairs.get? id snippets).bind List.head? with
  | none => simp [or_assoc]
  | some fragment =>
    simp only [Option.getD_some, or_assoc]
    simp only [or_comm, or_left_comm]

end SearchAppliance
