import SearchAppliance.Proofs.Result.Contribution
import SearchAppliance.Proofs.Text.Percent

namespace SearchAppliance

open Settings (PageOptions)
open Text.Percent (decode encoded isSafe)

/-- The element that is written for a tag. -/
def Tag.element (tag : Tag × Text) : Element := .text tag.1.name (some tag.2)

theorem Tag.eq_encodedUrl {tag : Tag} (h : (tag.name : Text) = "UE") : tag = .encodedUrl := by
  revert h
  cases tag <;> decide

namespace Digest

variable {options : PageOptions} {entry : Text × Text} {entries : List (Text × Text)}
  {before after : List (Tag × Text)} {value : Text}

theorem tagsOf_address (options : PageOptions) (url : Text) :
    tagsOf options (Field.address.name, url) =
      (.url, url) :: (secondForm options url).toOption.toList.map (.encodedUrl, ·) := rfl

theorem address_of_mem_tagsOf (h : (.encodedUrl, value) ∈ tagsOf options entry) :
    entry = ((Field.address.name : Text), entry.2) := by
  obtain ⟨name, text⟩ := entry
  cases hf : Field.ofName? name with
  | none => simp [tagsOf, hf] at h
  | some field =>
    obtain rfl := Field.name_of_ofName? hf
    simp only [tagsOf, hf] at h
    cases field with
    | address => rfl
    | _ => simp at h

/-- The second form of an address comes from a value of its field, right after the address itself. -/
theorem preceded_of_tags
    (h : entries.flatMap (tagsOf options) = before ++ (.encodedUrl, value) :: after) :
    ∃ earlier url, before = earlier ++ [(.url, url)] ∧ secondForm options url = .ok value ∧
      ((Field.address.name : Text), url) ∈ entries := by
  induction entries generalizing before with
  | nil => exact absurd h (by simp)
  | cons entry rest ih =>
    rw [List.flatMap_cons, List.append_eq_append_iff] at h
    obtain ⟨middle, hbefore, hrest⟩ | ⟨middle, hentry, hmiddle⟩ := h
    · obtain ⟨earlier, url, hurl, hvalue, hmem⟩ := ih hrest
      refine ⟨tagsOf options entry ++ earlier, url, ?_, hvalue, List.mem_cons_of_mem entry hmem⟩
      rw [hbefore, hurl, List.append_assoc]
    · cases middle with
      | nil =>
        obtain ⟨earlier, url, hurl, -⟩ := @ih [] hmiddle.symm
        exact absurd hurl (by simp)
      | cons second middle =>
        obtain rfl : second = (.encodedUrl, value) := (List.cons.inj hmiddle).1.symm
        have hmem : (.encodedUrl, value) ∈ tagsOf options entry := by simp [hentry]
        have haddress := address_of_mem_tagsOf hmem
        rw [haddress, tagsOf_address] at hentry
        cases hs : secondForm options entry.2 with
        | error cause =>
          rw [hs] at hentry
          cases before with
          | nil => cases hentry
          | cons first before => simp [Except.toOption] at hentry
        | ok form =>
          rw [hs] at hentry
          cases before with
          | nil => cases hentry
          | cons first before =>
            cases before with
            | nil =>
              cases hentry
              exact ⟨[], entry.2, rfl, hs, haddress ▸ List.mem_cons_self⟩
            | cons second before => cases before <;> cases hentry

/-- The elements of every hit, after those of its values. -/
def closingElements (d : Digest) (snippets : Snippets) (identity : Text) : List Element :=
  [.text "S" (some (d.snippet snippets)), .text "GD" (some d.description), .markup d.features,
    .text "ENT_SOURCE" (some identity)]

theorem elements_eq (d : Digest) (snippets : Snippets) (identity : Text) :
    d.elements snippets identity =
      d.tags.map Tag.element ++ d.closingElements snippets identity := rfl

/-- An encoded address among the elements comes from a tag. -/
theorem tags_of_elements {d : Digest} {snippets : Snippets} {identity : Text}
    {front back : List Element} {shown : Option Text}
    (h : d.elements snippets identity = front ++ .text "UE" shown :: back) :
    ∃ before value after, d.tags = before ++ (.encodedUrl, value) :: after ∧
      front = before.map Tag.element ∧ shown = some value := by
  have hclosing : .text "UE" shown ∉ d.closingElements snippets identity := by
    simp [closingElements]
  rw [elements_eq, List.append_eq_append_iff] at h
  obtain ⟨middle, -, hrest⟩ | ⟨middle, htags, hmiddle⟩ := h
  · exact absurd (hrest ▸ List.mem_append_right middle List.mem_cons_self) hclosing
  · cases middle with
    | nil =>
      have hall : .text "UE" shown :: back = d.closingElements snippets identity := hmiddle
      exact absurd (hall ▸ List.mem_cons_self) hclosing
    | cons first middle =>
      obtain rfl : first = .text "UE" shown := (List.cons.inj hmiddle).1.symm
      obtain ⟨before, rest, hsplit, hbefore, hrest⟩ := List.map_eq_append_iff.mp htags
      obtain ⟨⟨tag, value⟩, after, rfl, helement, -⟩ := List.map_eq_cons_iff.mp hrest
      obtain ⟨hname, rfl⟩ := Element.text.inj helement
      obtain rfl := Tag.eq_encodedUrl hname
      exact ⟨before, value, after, hsplit, hbefore.symm, rfl⟩

/-- An encoded address keeps what the address stands for, and each address of a hit is followed by its
encoded form where addresses are encoded. -/
theorem encoded_address_exact (url : String) :
    (∀ c ∈ (encoded url).toList, c.isAlphanum = true ∨ c ∈ "-._~:/?#[]@!$&'()*+,;=%".toList) ∧
    encoded (encoded url) = encoded url ∧
    decode (encoded url).toUTF8.data.toList = decode url.toUTF8.data.toList ∧
    ((∀ c ∈ url.toList, c.isAlphanum = true ∨ c ∈ "-._~:/?#[]@!$&'()*+,;=%".toList) →
      encoded url = url) ∧
    ∀ options fields snippets identity elements, options.encodeAddress = true →
      (Fields.elements options snippets identity fields).outcome = .ok elements →
      (∀ front back, fields.entries = front ++ ((Field.address.name : Text), (url : Text)) :: back →
        ∃ after, elements = (front.flatMap (tagsOf options)).map Tag.element ++
          .text "U" (some (url : Text)) :: .text "UE" (some (encoded url : Text)) :: after) ∧
      ∀ before value after, elements = before ++ .text "UE" value :: after →
        ∃ (earlier : List Element) (other : String),
          before = earlier ++ [.text "U" (some (other : Text))] ∧
          value = some (encoded other : Text) ∧
          ((Field.address.name : Text), (other : Text)) ∈ fields.entries := by
  simp only [← Text.Percent.isSafe_iff]
  obtain ⟨hsafe, htwice, hbytes, hstays⟩ := Text.Percent.encoded_spec url
  refine ⟨hsafe, htwice, hbytes, hstays, ?_⟩
  intro options fields snippets identity elements hencode helements
  obtain ⟨last, hlast, rfl⟩ := Outcome.map_eq_ok.mp helements
  have htags : last.tags = fields.entries.flatMap (tagsOf options) := by
    rw [ofFields_gathered hlast]
    rfl
  constructor
  · intro front back hsplit
    have hsecond : secondForm options url = .ok (encoded url : Text) := by
      rw [secondForm, if_pos hencode, Text.encode_eq_ok.mpr rfl]
      rfl
    rw [hsplit, List.flatMap_append, List.flatMap_cons, tagsOf_address, hsecond] at htags
    refine ⟨(back.flatMap (tagsOf options)).map Tag.element ++
      last.closingElements snippets identity, ?_⟩
    rw [elements_eq, htags, List.map_append, List.append_assoc]
    rfl
  · intro front shown back hsplit
    obtain ⟨before, value, after, hvalue, rfl, rfl⟩ := tags_of_elements hsplit
    obtain ⟨earlier, other, rfl, hsecond, hmem⟩ := preceded_of_tags (htags.symm.trans hvalue)
    rw [secondForm, if_pos hencode] at hsecond
    obtain ⟨s, hs, rfl⟩ := Outcome.map_eq_ok.mp hsecond
    obtain rfl := Text.encode_eq_ok.mp hs
    refine ⟨earlier.map Tag.element, s, ?_, rfl, hmem⟩
    rw [List.map_append]
    rfl

/-- A percent sign that begins no escape begins none before an encoded character either. -/
theorem encoded_address_exact_percent :
    let url := "/a %4é%41"
    let options : PageOptions := { encodeAddress := true }
    let fields : Fields := [("sku", [url]), ("title", ["A"])]
    let second := "/a%20%4%C3%A9%41"
    encoded url = second ∧ encoded second = second ∧
      decode second.toUTF8.data.toList = decode url.toUTF8.data.toList ∧
      ∃ elements after, (fields.elements options [] "node").outcome = .ok elements ∧
        elements = .text "U" (some (url : Text)) :: .text "UE" (some (second : Text)) :: after := by
  intro url options fields second
  have hencoded : encoded url = second := by decide
  obtain ⟨-, htwice, hbytes, -, hshown⟩ := encoded_address_exact url
  rw [hencoded] at htwice hbytes
  refine ⟨hencoded, htwice, hbytes, ?_⟩
  have hok : (fields.elements options [] "node").outcome.isOk = true := by decide
  obtain ⟨elements, h⟩ := Outcome.isOk_iff.mp hok
  obtain ⟨hafter, -⟩ := hshown options fields [] "node" elements rfl h
  obtain ⟨after, helements⟩ := hafter [] [("title", "A")] rfl
  refine ⟨elements, after, h, ?_⟩
  rw [helements, hencoded]
  rfl

end Digest

end SearchAppliance
