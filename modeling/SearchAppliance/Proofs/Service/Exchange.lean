import SearchAppliance.Proofs.Index.History
import SearchAppliance.Proofs.Settings.PageOptions
import SearchAppliance.Service.Basic

namespace SearchAppliance

namespace Settings

theorem text_eq_ok {v : Json} {s : Text} : text v = .ok s ↔ v = .str s := by
  cases v <;> simp [text, Checked.fail]

theorem listOf_text_eq_ok {v : Json} {values : List Text} :
    listOf text v = .ok values ↔ v = .arr (values.map .str) := by
  cases v with
  | arr items =>
    simp only [listOf, Checked.each_eq_ok, text_eq_ok, Json.arr.injEq]
    rw [← List.forall₂_map_right_iff (R := (· = ·)), List.forall₂_eq_eq_eq]
  | _ => simp [listOf, Checked.fail]

end Settings

namespace Service

open Settings (Checked)

theorem Response.json_status {status : Nat} (value : Json) (h : status ≠ 200) :
    (json status value).status ≠ 200 := by
  unfold json
  split
  · exact h
  · exact (by decide : 500 ≠ 200)

theorem Response.invalid_status (faults : List Settings.Fault) :
    (invalid faults).status ≠ 200 := by
  unfold invalid
  split
  · exact (by decide : 422 ≠ 200)
  · exact (by decide : 500 ≠ 200)

/-- A reason can always be sent. -/
theorem Response.detail_eq (status : Nat) (reason : String) :
    detail status reason =
      ⟨status, "application/json", .json (.obj [("detail", .str reason)]), []⟩ := by
  simp [detail, json, Json.canBeSent, Json.membersCanBeSent]

/-- What a member of a document stands for: a text for itself alone, a list of texts for these. -/
inductive ValuesOf : Json → List Text → Prop
  | one (value : Text) : ValuesOf (.str value) [value]
  | many (values : List Text) : ValuesOf (.arr (values.map .str)) values

/-- The body has a member `fields` that is not empty, and the members of that are the document. -/
def Brings (body : Json) (document : Fields) : Prop :=
  ∃ members pairs, body = .obj members ∧ Pairs.get? ("fields" : Text) members = some (.obj pairs) ∧
    pairs ≠ [] ∧
    List.Forall₂ (fun pair field => pair.1 = field.1 ∧ ValuesOf pair.2 field.2) pairs document

namespace DocumentBody

theorem values_eq_ok {v : Json} {texts : List Text} :
    values v = .ok texts ↔ ValuesOf v texts := by
  unfold values
  split
  · next s =>
    constructor
    · intro h
      cases h
      exact .one s
    · intro h
      cases h
      rfl
  · next hno =>
    have hmany : ValuesOf v texts ↔ Settings.listOf Settings.text v = .ok texts := by
      rw [Settings.listOf_text_eq_ok]
      constructor
      · intro h
        cases h with
        | one s => exact absurd rfl (hno s)
        | many texts => rfl
      · rintro rfl
        exact .many texts
    rw [hmany]
    cases Settings.listOf Settings.text v <;> simp

theorem members_eq_ok {pairs : List (Text × Json)} {document : Fields} :
    members pairs = .ok document ↔
      List.Forall₂ (fun pair field => pair.1 = field.1 ∧ ValuesOf pair.2 field.2)
        pairs document := by
  induction pairs generalizing document with
  | nil => cases document <;> simp [members]
  | cons pair rest ih =>
    simp only [members, Checked.and_eq_ok, Checked.map_eq_ok, Checked.under_eq_ok, values_eq_ok,
      ih, List.forall₂_cons_left_iff]
    constructor
    · rintro ⟨_, more, ⟨values, hvalues, rfl⟩, hmore, rfl⟩
      exact ⟨(pair.1, values), more, ⟨rfl, hvalues⟩, hmore, rfl⟩
    · rintro ⟨⟨name, values⟩, more, ⟨rfl, hvalues⟩, hmore, rfl⟩
      exact ⟨_, more, ⟨values, hvalues, rfl⟩, hmore, rfl⟩

theorem fields_eq_ok {v : Json} {document : Fields} :
    fields v = .ok document ↔ ∃ pairs, v = .obj pairs ∧ pairs ≠ [] ∧
      List.Forall₂ (fun pair field => pair.1 = field.1 ∧ ValuesOf pair.2 field.2)
        pairs document := by
  unfold fields
  split
  · simp [Checked.fail]
  · next pairs hne =>
    rw [members_eq_ok]
    constructor
    · intro h
      exact ⟨pairs, rfl, hne, h⟩
    · rintro ⟨other, hother, -, h⟩
      exact Json.obj.inj hother ▸ h
  · next hno =>
    constructor
    · intro h
      cases h
    · rintro ⟨pairs, rfl, -⟩
      exact absurd rfl (hno pairs)

/-- A body is in order if it brings a document, and that is the one that is read. -/
theorem document_eq_ok {body : Json} {document : Fields} :
    DocumentBody.document body = .ok document ↔ Brings body document := by
  unfold DocumentBody.document Brings
  rw [Checked.under_eq_ok]
  cases body with
  | obj members =>
    simp only [Settings.required_eq_ok, fields_eq_ok]
    constructor
    · rintro ⟨_, hfields, pairs, rfl, hpairs⟩
      exact ⟨members, pairs, rfl, hfields, hpairs⟩
    · rintro ⟨other, pairs, hother, hfields, hpairs⟩
      exact ⟨_, Json.obj.inj hother ▸ hfields, pairs, rfl, hpairs⟩
  | _ => simp [Checked.fail]

end DocumentBody

theorem Brings.unique {body : Json} {first second : Fields} (hfirst : Brings body first)
    (hsecond : Brings body second) : first = second := by
  have h := (DocumentBody.document_eq_ok.mpr hfirst).symm.trans
    (DocumentBody.document_eq_ok.mpr hsecond)
  cases h
  rfl

namespace Request

/-- Does the request come to add a document? -/
def posts : Request → Bool
  | .add _ | .addText _ => true
  | .health | .search _ _ => false

/-- The body of a request that comes to add a document, if it can be read. -/
def body? : Request → Option Json
  | .add body => some body
  | .addText text => (Json.parse text).toOption
  | .health | .search _ _ => none

/-- The request brings a document with an identifier. -/
def Offers (request : Request) (document : Fields) (id : Text) : Prop :=
  (∃ body, request.body? = some body ∧ Brings body document) ∧ document.documentId? = some id

theorem Offers.posts {request : Request} {document : Fields} {id : Text}
    (h : request.Offers document id) : request.posts = true := by
  obtain ⟨⟨body, hbody, -⟩, -⟩ := h
  cases request with
  | add body => rfl
  | addText text => rfl
  | health => cases hbody
  | search params caller => cases hbody

theorem Offers.unique {request : Request} {first second : Fields} {id other : Text}
    (hfirst : request.Offers first id) (hsecond : request.Offers second other) :
    first = second := by
  obtain ⟨⟨body, hbody, hbrings⟩, -⟩ := hfirst
  obtain ⟨⟨body', hbody', hbrings'⟩, -⟩ := hsecond
  obtain rfl := Option.some.inj (hbody.symm.trans hbody')
  exact hbrings.unique hbrings'

end Request

/-- The answer to a document that was added: its identifier, if that can be sent. -/
def added (id : Text) : Response :=
  if id.isWellFormed then ⟨200, "application/json", .json (.obj [("id", .str id)]), []⟩
  else .internalError

theorem added_status (id : Text) : (added id).status = 200 ↔ id.isWellFormed = true := by
  unfold added
  split <;> simp [*, Response.internalError]

section Answers

variable {index : Index} {body : Json} {document : Fields} {id : Text}

/-- A document with an identifier is added, whatever is answered. -/
theorem addDocument_own (hbody : Brings body document) (hid : document.documentId? = some id) :
    addDocument (.own index) body = (added id, .own (index.offer document)) := by
  have hsent : (Json.obj [("id", .str id)]).canBeSent = id.isWellFormed := by
    simp [Json.canBeSent, Json.membersCanBeSent, Text.string?_isSome]
  unfold addDocument
  rw [DocumentBody.document_eq_ok.mpr hbody]
  simp only [(Index.add_of_isSome hid).1, Response.json, hsent]
  rfl

/-- A document without an identifier, or a body without a document, is refused. -/
theorem addDocument_other (engine : Engine)
    (hno : ∀ document, Brings body document → document.documentId? = none) :
    ∃ response, response.status ≠ 200 ∧ addDocument engine body = (response, engine) := by
  unfold addDocument
  cases hbody : DocumentBody.document body with
  | bad faults => exact ⟨_, Response.invalid_status faults, rfl⟩
  | ok document =>
    cases engine with
    | closed index marks => exact ⟨_, Response.json_status _ (by decide : 405 ≠ 200), rfl⟩
    | own index =>
      have hid := hno document (DocumentBody.document_eq_ok.mp hbody)
      simp only [(Index.add_of_isNone hid).1]
      exact ⟨_, Response.json_status _ (by decide : 400 ≠ 200), rfl⟩

/-- A text that holds no body is refused without a look at the engine. -/
theorem addText_cases (text : Text) :
    (∃ body, Json.parse text = .ok body ∧
      ∀ engine, addText engine text = addDocument engine body) ∨
    ∃ response : Response, (Json.parse text).toOption = none ∧ response.status ≠ 200 ∧
      ∀ engine, addText engine text = (response, engine) := by
  unfold addText
  split
  · next hempty =>
    obtain rfl : text = "" := Text.eq_empty_iff.mpr (List.isEmpty_iff.mp hempty)
    exact Or.inr ⟨_, rfl, Response.invalid_status _, fun _ => rfl⟩
  · cases hparse : Json.parse text with
    | ok body => exact Or.inl ⟨body, rfl, fun _ => rfl⟩
    | error fault =>
      cases fault with
      | malformed position => exact Or.inr ⟨_, rfl, Response.invalid_status _, fun _ => rfl⟩
      | excessive =>
        exact Or.inr ⟨_, rfl, Response.json_status _ (by decide : 400 ≠ 200), fun _ => rfl⟩

end Answers

variable {request : Request} {document : Fields} {id : Text}

/-- What a request that comes to add a document does with an engine hangs on its body alone. -/
theorem handle_of_posts (identity : Text) (clock : Clock) (h : request.posts = true) :
    (∃ body, request.body? = some body ∧
      ∀ engine, handle identity clock engine request = addDocument engine body) ∨
    ∃ response : Response, request.body? = none ∧ response.status ≠ 200 ∧
      ∀ engine, handle identity clock engine request = (response, engine) := by
  cases request with
  | health => cases h
  | search params caller => cases h
  | add body => exact Or.inl ⟨body, rfl, fun _ => rfl⟩
  | addText text =>
    rcases addText_cases text with ⟨body, hparse, htext⟩ | hrefused
    · have hbody : (Request.addText text).body? = some body := by
        rw [Request.body?, hparse]
        rfl
      exact Or.inl ⟨body, hbody, htext⟩
    · exact Or.inr hrefused

theorem handle_of_not_posts (identity : Text) (clock : Clock) (engine : Engine)
    (h : request.posts = false) : (handle identity clock engine request).2 = engine := by
  cases request with
  | health => rfl
  | search params caller => rfl
  | add body => cases h
  | addText text => cases h

/-- An index of the service's own adds every document that is offered. -/
theorem handle_offer (identity : Text) (clock : Clock) (index : Index)
    (h : request.Offers document id) :
    handle identity clock (.own index) request = (added id, .own (index.offer document)) := by
  have ⟨⟨body, hbody, hbrings⟩, hid⟩ := h
  rcases handle_of_posts identity clock h.posts with
    ⟨other, hother, hadd⟩ | ⟨response, hnone, -⟩
  · obtain rfl := Option.some.inj (hbody.symm.trans hother)
    exact (hadd _).trans (addDocument_own hbrings hid)
  · rw [hnone] at hbody
    cases hbody

/-- Did the request come to add a document, and was it answered as one that did? -/
def Accepted (request : Request) (response : Response) : Prop :=
  request.posts = true ∧ response.status = 200

instance (request : Request) (response : Response) : Decidable (Accepted request response) :=
  inferInstanceAs (Decidable (_ ∧ _))

theorem not_accepted_of_not_posts (response : Response) (h : request.posts = false) :
    ¬Accepted request response := by
  intro haccepted
  rw [haccepted.1] at h
  cases h

/-- A request that offers no document leaves the engine. -/
theorem handle_other (identity : Text) (clock : Clock) (engine : Engine)
    (hno : ∀ document id, ¬request.Offers document id) :
    ¬Accepted request (handle identity clock engine request).1 ∧
      (handle identity clock engine request).2 = engine := by
  cases hposts : request.posts with
  | false =>
    exact ⟨not_accepted_of_not_posts _ hposts, handle_of_not_posts identity clock engine hposts⟩
  | true =>
    rcases handle_of_posts identity clock hposts with
      ⟨body, hbody, hadd⟩ | ⟨response, -, hstatus, hadd⟩
    · have hplain (document : Fields) (hbrings : Brings body document) :
          document.documentId? = none := by
        cases hid : document.documentId? with
        | none => rfl
        | some id => exact absurd ⟨⟨body, hbody, hbrings⟩, hid⟩ (hno document id)
      obtain ⟨response, hstatus, hanswer⟩ := addDocument_other engine hplain
      rw [hadd, hanswer]
      exact ⟨fun h => hstatus h.2, rfl⟩
    · rw [hadd]
      exact ⟨fun h => hstatus h.2, rfl⟩

end Service

end SearchAppliance
