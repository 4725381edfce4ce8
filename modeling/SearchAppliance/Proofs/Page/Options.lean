import SearchAppliance.Proofs.Page.Lockstep
import SearchAppliance.Proofs.Page.Pieces
import SearchAppliance.Proofs.Result.Leniency
import SearchAppliance.Proofs.Text.Percent
import SearchAppliance.Proofs.Text.XmlChar

namespace SearchAppliance

open Settings (PageOptions)

namespace Digest

variable {a b options : PageOptions} {d e last : Digest} {entries : List (Text × Text)}
  {entry : Text × Text} {url : Text}

/-- Do two options give second forms of the same addresses? They do if neither or both of them encode
addresses, and they do for an address without surrogates. -/
def FormsAgree (a b : PageOptions) (entry : Text × Text) : Prop :=
  entry.1 = Field.address.name → a.encodeAddress = b.encodeAddress ∨ entry.2.isWellFormed = true

theorem secondForm_eq_empty {value second : Text} (h : secondForm options value = .ok second) :
    second = "" ↔ value = "" := by
  unfold secondForm at h
  split at h
  · obtain ⟨s, hs, rfl⟩ := Outcome.map_eq_ok.mp h
    rw [Text.encode_eq_ok.mp hs, Text.ofString_inj, Text.ofString_inj]
    exact Text.Percent.encoded_eq_empty
  · rw [Except.ok.inj h]

theorem isWellFormed_secondForm {value second : Text} (h : secondForm options value = .ok second) :
    second.isWellFormed = value.isWellFormed := by
  unfold secondForm at h
  split at h
  · obtain ⟨s, hs, rfl⟩ := Outcome.map_eq_ok.mp h
    rw [Text.encode_eq_ok.mp hs, Text.isWellFormed_ofString, Text.isWellFormed_ofString]
  · rw [Except.ok.inj h]

theorem secondForm_of_isWellFormed (options : PageOptions) {value : Text}
    (h : value.isWellFormed = true) : ∃ second, secondForm options value = .ok second := by
  cases hs : secondForm options value with
  | ok second => exact ⟨second, rfl⟩
  | error cause =>
    obtain ⟨-, hbad, -⟩ := secondForm_eq_error hs
    rw [h] at hbad
    cases hbad

theorem secondForm_alike {value : Text}
    (h : a.encodeAddress = b.encodeAddress ∨ value.isWellFormed = true) :
    Outcome.Alike
      (fun first second => secondForm a value = .ok first ∧ secondForm b value = .ok second)
      (secondForm a value) (secondForm b value) := by
  rcases h with hsame | hvalue
  · have hforms : secondForm a value = secondForm b value := by rw [secondForm, secondForm, hsame]
    rw [hforms]
    cases secondForm b value with
    | ok second => exact .ok ⟨rfl, rfl⟩
    | error cause => exact .error cause
  · obtain ⟨first, ha⟩ := secondForm_of_isWellFormed a hvalue
    obtain ⟨second, hb⟩ := secondForm_of_isWellFormed b hvalue
    rw [ha, hb]
    exact .ok ⟨rfl, rfl⟩

/-- Are tags the same, or the second forms of one address under two options? -/
def TagAlike (a b : PageOptions) (x y : Tag × Text) : Prop :=
  x = y ∨ ∃ address first second,
    (secondForm a address = .ok first ∧ secondForm b address = .ok second) ∧
      x = (.encodedUrl, first) ∧ y = (.encodedUrl, second)

/-- Do digests differ at most in the second forms of addresses? -/
def Alike (a b : PageOptions) (d e : Digest) : Prop :=
  ∃ tags, e = { d with tags := tags } ∧ List.Forall₂ (TagAlike a b) d.tags tags

theorem Alike.refl (d : Digest) : d.Alike a b d :=
  ⟨d.tags, rfl, List.forall₂_same.mpr fun _ _ => Or.inl rfl⟩

theorem tags_concat {tags others : List (Tag × Text)} (h : List.Forall₂ (TagAlike a b) tags others)
    (entry : Tag × Text) : List.Forall₂ (TagAlike a b) (tags ++ [entry]) (others ++ [entry]) :=
  List.rel_append h (.cons (Or.inl rfl) .nil)

theorem take_alike (h : d.Alike a b e) (hforms : FormsAgree a b entry) :
    Outcome.Alike (Alike a b) (d.take a entry) (e.take b entry) := by
  obtain ⟨name, value⟩ := entry
  cases hf : Field.ofName? name with
  | none =>
    rw [take_unknown hf, take_unknown hf]
    exact .ok h
  | some field =>
    obtain rfl := Field.name_of_ofName? hf
    obtain ⟨tags, rfl, htags⟩ := h
    rw [take_name, take_name]
    cases field with
    | address =>
      apply (secondForm_alike (hforms rfl)).map
      intro first second hboth
      have htwo : List.Forall₂ (TagAlike a b) [(.url, value), (.encodedUrl, first)]
          [(.url, value), (.encodedUrl, second)] :=
        .cons (Or.inl rfl) (.cons (Or.inr ⟨value, first, second, hboth, rfl, rfl⟩) .nil)
      exact ⟨_, rfl, List.rel_append htags htwo⟩
    | lastModified | loadDate =>
      apply (Outcome.Alike.refl (fun _ => rfl) (Calendar.readDate _ value)).map
      rintro date _ rfl
      exact ⟨_, rfl, tags_concat htags _⟩
    | size =>
      apply (Outcome.Alike.refl (fun _ => rfl) (Number.readField _ value)).map
      rintro number _ rfl
      exact ⟨_, rfl, htags⟩
    | title | language => exact .ok ⟨_, rfl, tags_concat htags _⟩
    | _ => exact .ok ⟨_, rfl, htags⟩

/-- Options that treat malformed numbers alike leave the same values out and give digests that are
alike. -/
theorem takeAll_alike (hs : a.strictNumbers = b.strictNumbers) (h : d.Alike a b e)
    (hforms : ∀ entry ∈ entries, FormsAgree a b entry) :
    (takeAll a d entries).events = (takeAll b e entries).events ∧
      Outcome.Alike (Alike a b) (takeAll a d entries).outcome (takeAll b e entries).outcome := by
  induction entries generalizing d e with
  | nil => exact ⟨rfl, .ok h⟩
  | cons entry rest ih =>
    rw [List.forall_mem_cons] at hforms
    have htake := take_alike h hforms.1
    rw [takeAll, takeAll]
    generalize d.take a entry = x at htake
    generalize e.take b entry = y at htake
    cases htake with
    | ok hnext => exact ih hnext hforms.2
    | error cause =>
      simp only [hs]
      split
      · obtain ⟨hevents, houtcome⟩ := ih h hforms.2
        have hid : d.documentId = e.documentId := by
          obtain ⟨tags, rfl, -⟩ := h
          rfl
        refine ⟨?_, houtcome⟩
        rw [Logged.after, Logged.after, hevents, hid]
      · exact ⟨rfl, .error cause⟩

/-- The first address with surrogates, which has no percent-encoded form. -/
def unencodable? (entries : List (Text × Text)) : Option Text :=
  (entries.find? fun entry : Text × Text =>
    entry.1 = Field.address.name && !entry.2.isWellFormed).map (·.2)

theorem unencodable?_append (front back : List (Text × Text)) :
    unencodable? (front ++ back) = (unencodable? front).or (unencodable? back) := by
  rw [unencodable?, List.find?_append, Option.map_or]
  rfl

theorem unencodable?_eq_none : unencodable? entries = none ↔
    ∀ entry ∈ entries, entry.1 = Field.address.name → entry.2.isWellFormed = true := by
  simp [unencodable?]

theorem formsAgree_of_unencodable? (h : unencodable? entries = none) :
    ∀ entry ∈ entries, FormsAgree a b entry :=
  fun entry hm hname => Or.inr (unencodable?_eq_none.mp h entry hm hname)

theorem take_unencodable (ha : a.encodeAddress = true) (h : unencodable? [entry] = some url) :
    d.take a entry = .error (.unencodable url) := by
  obtain ⟨found, hfound, rfl⟩ := Option.map_eq_some_iff.mp h
  obtain rfl : found = entry := List.mem_singleton.mp (List.mem_of_find?_eq_some hfound)
  have hboth := List.find?_some hfound
  rw [Bool.and_eq_true, decide_eq_true_eq, Bool.not_eq_true'] at hboth
  obtain ⟨name, value⟩ := found
  obtain rfl : name = Field.address.name := hboth.1
  have hsecond : secondForm a value = .error (.unencodable value) := by
    rw [secondForm, if_pos ha, Text.encode, Text.string?_eq_none.mpr hboth.2]
    rfl
  rw [take_name]
  exact Outcome.map_eq_error.mpr hsecond

/-- A digest that is given with percent-encoded addresses has none without such a form. -/
theorem unencodable?_of_takeAll (ha : a.encodeAddress = true)
    (h : (takeAll a d entries).outcome = .ok last) : unencodable? entries = none := by
  induction entries generalizing d with
  | nil => rfl
  | cons entry rest ih =>
    rw [← List.singleton_append, unencodable?_append]
    rw [takeAll] at h
    cases hfirst : unencodable? [entry] with
    | some value =>
      rw [take_unencodable ha hfirst] at h
      cases h
    | none =>
      rw [Option.none_or]
      cases ht : d.take a entry with
      | ok next =>
        rw [ht] at h
        exact ih h
      | error cause =>
        rw [ht] at h
        cases hskip : cause.isMalformedField && !a.strictNumbers with
        | true =>
          simp only [hskip] at h
          exact ih h
        | false =>
          simp only [hskip] at h
          cases h

/-- An address that has no percent-encoded form ends a digest that would be given without that form. -/
theorem takeAll_unencodable (ha : a.encodeAddress = true) (hs : a.strictNumbers = b.strictNumbers)
    (h : d.Alike a b e) (hlast : (takeAll b e entries).outcome = .ok last)
    (hurl : unencodable? entries = some url) :
    (takeAll a d entries).outcome = .error (.unencodable url) := by
  induction entries generalizing d e with
  | nil => cases hurl
  | cons entry rest ih =>
    rw [← List.singleton_append, unencodable?_append] at hurl
    cases hfirst : unencodable? [entry] with
    | some value =>
      rw [hfirst] at hurl
      obtain rfl : value = url := Option.some.inj hurl
      rw [takeAll, take_unencodable ha hfirst]
      rfl
    | none =>
      rw [hfirst, Option.none_or] at hurl
      have htake := take_alike h (formsAgree_of_unencodable? hfirst entry List.mem_cons_self)
      rw [takeAll] at hlast ⊢
      generalize d.take a entry = x at htake
      generalize e.take b entry = y at htake hlast
      cases htake with
      | ok hnext => exact ih hnext hlast hurl
      | error cause =>
        simp only [hs] at hlast ⊢
        cases hskip : cause.isMalformedField && !b.strictNumbers with
        | true =>
          simp only [hskip] at hlast ⊢
          exact ih h hlast hurl
        | false =>
          simp only [hskip] at hlast
          cases hlast

/-- A strict digest that is given leaves nothing out. -/
theorem takeAll_of_strict (h : (takeAll options.strict d entries).outcome = .ok last) :
    takeAll options.strict d entries = takeAll options.lenient d entries := by
  induction entries generalizing d with
  | nil => rfl
  | cons entry rest ih =>
    rw [takeAll] at h
    rw [takeAll, takeAll, ← take_strict]
    cases ht : d.take options.strict entry with
    | ok next =>
      rw [ht] at h
      exact ih h
    | error cause =>
      rw [ht] at h
      simp only [Settings.PageOptions.strict, Bool.not_true, Bool.and_false] at h
      cases h

end Digest

namespace Page

/-- The line of an echoed parameter. -/
def paramLine (name value original : Text) : Text :=
  "<PARAM name=\"" ++ name ++ "\" value=\"" ++ Text.Escape.attr value ++ "\" original_value=\""
    ++ original ++ "\"/>\n"

/-- The original value of an echoed parameter: as it came in, or escaped like the value. -/
def originalValue (escapeEcho : Bool) (value : Text) : Text :=
  if escapeEcho then Text.Escape.attr value else value

/-- The line with the second form of an address. -/
def addressLine (second : Text) : Text := "<UE>" ++ Text.Escape.text second ++ "</UE>\n"

/-- The line with the link to the next page. -/
def pagingLine (link : Text) : Text :=
  "<NB><NU>" ++ Text.Escape.text link ++ "</NU></NB>\n"

/-- The start tag of a hit. -/
def hitTag (rank attributes : Text) : Text :=
  "<R N=\"" ++ rank ++ "\"" ++ attributes ++ ">\n"

/-- The texts of a page that options can change, each as two options give it. -/
inductive Variant (a b : PageOptions) (request : EchoedRequest) (page : Page) :
    Text → Text → Prop
  | echo (name value : Text) (h : (name, some value) ∈ echoed request page) :
    Variant a b request page (paramLine name value (originalValue a.escapeEcho value))
      (paramLine name value (originalValue b.escapeEcho value))
  | address (url first second : Text)
    (h : Digest.secondForm a url = .ok first ∧ Digest.secondForm b url = .ok second) :
    Variant a b request page (addressLine first) (addressLine second)
  | link (rest : Text) :
    Variant a b request page (pagingLine (a.nextPagePath ++ rest))
      (pagingLine (b.nextPagePath ++ rest))
  | opening (index : Nat) :
    Variant a b request page
      (hitTag (toString (page.offset + index + 1)) (placedAttributes a index))
      (hitTag (toString (page.offset + index + 1)) (placedAttributes b index))

variable {a b options : PageOptions} {snippets : Snippets} {request : EchoedRequest}
  {identity : Text} {page : Page}

theorem param?_eq (escapeEcho : Bool) (name : Text) (value : Option Text) :
    Element.param? escapeEcho name value =
      (Element.filled? value).map fun v => paramLine name v (originalValue escapeEcho v) := rfl

/-- A parameter that is written is one of the request or of the page. -/
theorem mem_echoed {params : List (Text × Option Text)} (h : page.params request = .ok params)
    {name value : Text} (hm : (name, some value) ∈ params) :
    (name, some value) ∈ echoed request page := by
  obtain ⟨start, hs, h⟩ := Outcome.bind_eq_ok.mp h
  obtain ⟨rows, hr, h⟩ := Outcome.bind_eq_ok.mp h
  obtain ⟨-, rfl⟩ := Number.write_eq_ok.mp hs
  obtain ⟨-, rfl⟩ := Number.write_eq_ok.mp hr
  rw [← Outcome.pure_eq_ok.mp h] at hm
  rcases List.mem_cons.mp hm with hsort | hrest
  · obtain ⟨rfl, hvalue⟩ := Prod.mk.inj hsort
    rw [sortOf_raw] at hvalue
    have hraw := (Option.filter_eq_some_iff.mp hvalue.symm).1
    rw [← hraw]
    exact List.mem_cons_self
  · exact List.mem_cons_of_mem _ hrest

/-- A link is its path and then the same for all options. -/
theorem nextLink_eq (options : PageOptions) (request : EchoedRequest) (page : Page) :
    page.nextLink options request =
      (page.nextLink { nextPagePath := "" } request).map (options.nextPagePath ++ ·) := by
  unfold nextLink
  cases Number.write page.nextStart with
  | ok start =>
    simp [bind, Except.bind, pure, Except.pure, Except.map, Text.append_assoc]
  | error cause => rfl

theorem written?_encodedUrl {second : Text} (h : second ≠ "") :
    (Element.text Tag.encodedUrl.name (some second)).written? = some (addressLine second) := by
  rw [Element.written?, Element.line?, Element.filled?, Option.filter_some,
    if_pos (decide_eq_true h), Option.map_some, Option.some_inj, addressLine, ← Text.toList_inj]
  simp [Tag.name]

theorem elements_alike {d e : Digest} (h : d.Alike a b e) :
    List.Forall₂
      (fun x y => Option.Rel (SameOr (Variant a b request page)) x.written? y.written?)
      (d.elements snippets identity) (e.elements snippets identity) := by
  obtain ⟨tags, rfl, htags⟩ := h
  apply List.rel_append
  · rw [List.forall₂_map_left_iff, List.forall₂_map_right_iff]
    apply htags.imp
    rintro x y (rfl | ⟨url, first, second, hboth, rfl, rfl⟩)
    · exact SameOr.rel_self _
    · have hfirst := Digest.secondForm_eq_empty hboth.1
      have hsecond := Digest.secondForm_eq_empty hboth.2
      by_cases hempty : url = ""
      · rw [hfirst.mpr hempty, hsecond.mpr hempty]
        exact SameOr.rel_self _
      · rw [written?_encodedUrl (mt hfirst.mp hempty), written?_encodedUrl (mt hsecond.mp hempty)]
        exact .some (Or.inr (.address url first second hboth))
  · exact List.forall₂_same.mpr fun element _ => SameOr.rel_self _

theorem headerMatched_variant : HeaderMatched (Variant a b request page) a b request page where
  param := by
    rintro params hp ⟨name, value⟩ hm
    rw [param?_eq, param?_eq]
    cases hf : Element.filled? value with
    | none => exact .none
    | some v =>
      have hv := (Option.filter_eq_some_iff.mp hf).1
      exact .some (Or.inr (.echo name v (mem_echoed hp (hv ▸ hm))))
  link := by
    rw [linkLine, linkLine, nextLink_eq a, nextLink_eq b]
    cases page.nextLink { nextPagePath := "" } request with
    | ok rest => exact .ok (Or.inr (.link rest))
    | error cause => exact .error cause

/-- Options that treat malformed numbers alike differ in nothing but the texts that they can change. -/
theorem hitMatched_variant {hit : Fields} (hs : a.strictNumbers = b.strictNumbers)
    (hforms : ∀ entry ∈ hit.entries, Digest.FormsAgree a b entry) :
    HitMatched (Variant a b request page) a b snippets identity page.offset hit where
  opening := by
    intro index
    rw [hitOpening, hitOpening]
    cases hr : Number.write (page.offset + index + 1) with
    | ok rank =>
      obtain ⟨-, rfl⟩ := Number.write_eq_ok.mp hr
      exact .ok (Or.inr (.opening index))
    | error cause => exact .error cause
  events := (Digest.takeAll_alike hs (.refl {}) hforms).1
  elements := by
    apply (Digest.takeAll_alike hs (.refl {}) hforms).2.map
    intro d e h
    exact elements_alike h

/-- What options change in a page is what they change in the texts that can differ. -/
theorem differOnly_of_variant {D : Text → Text → Prop} (hs : a.strictNumbers = b.strictNumbers)
    (hforms : ∀ hit ∈ page.hits, ∀ entry ∈ hit.entries, Digest.FormsAgree a b entry)
    (h : ∀ text other, Variant a b request page text other → SameOr D text other) :
    DifferOnly D a b snippets request identity page :=
  have hmatched : Matched (Variant a b request page) a b snippets request identity page :=
    ⟨headerMatched_variant, fun hit hm => hitMatched_variant hs (hforms hit hm)⟩
  hmatched.differOnly.imp h

/-- The first address on a page that has no percent-encoded form. -/
def unencodable? (page : Page) : Option Text :=
  Digest.unencodable? (page.hits.flatMap Fields.entries)

section Unencodable

variable {D : Text → Text → Prop} {url : Text}

theorem departs_writeHit {hit : Fields} (offset : Int) (index : Nat)
    (h : Digest.unencodable? hit.entries = some url) :
    let a := { options with encodeAddress := true }
    let b := { options with encodeAddress := false }
    Writing.Departs D (.unencodable url) (writeHit a snippets identity offset index hit)
      (writeHit b snippets identity offset index hit) := by
  intro a b
  apply (Writing.lockstep_known (hitOpening options offset index)).departs
  rintro opening _ rfl
  apply (Writing.lockstep_write (.refl opening)).departs
  intro _ _ _
  refine Writing.Departs.bind (Writing.departs_ofLogged ?_) _ _
  intro elements he
  obtain ⟨last, hlast, -⟩ := Outcome.map_eq_ok.mp he
  have hfails : (Digest.ofFields a hit).outcome = .error (.unencodable url) :=
    Digest.takeAll_unencodable (b := b) rfl rfl (.refl {}) hlast h
  exact Outcome.map_eq_error.mpr hfails

theorem departs_writeHits {hits : List Fields} (index : Nat)
    (h : Digest.unencodable? (hits.flatMap Fields.entries) = some url) :
    let a := { options with encodeAddress := true }
    let b := { options with encodeAddress := false }
    Writing.Departs (Variant a b request page) (.unencodable url)
      (writeHits a snippets identity page.offset index hits)
      (writeHits b snippets identity page.offset index hits) := by
  intro a b
  induction hits generalizing index with
  | nil => cases h
  | cons hit rest ih =>
    rw [List.flatMap_cons, Digest.unencodable?_append] at h
    cases hfirst : Digest.unencodable? hit.entries with
    | some other =>
      rw [hfirst] at h
      obtain rfl : other = url := Option.some.inj h
      exact (departs_writeHit page.offset index hfirst).bind _ _
    | none =>
      rw [hfirst, Option.none_or] at h
      have hmatched :
          HitMatched (Variant a b request page) a b snippets identity page.offset hit :=
        hitMatched_variant rfl (Digest.formsAgree_of_unencodable? hfirst)
      exact (hmatched.lockstep index).departs fun _ _ _ => ih (index + 1) h

/-- Writing a page with percent-encoded addresses fails at the first one that has no such form, where
without them it would succeed. -/
theorem departs_write (options : PageOptions) (h : page.unencodable? = some url) :
    let a := { options with encodeAddress := true }
    let b := { options with encodeAddress := false }
    Writing.Departs (Variant a b request page) (.unencodable url)
      (page.write a snippets request identity) (page.write b snippets request identity) := by
  intro a b
  apply (Writing.lockstep_timed Stopwatch.start).departs
  rintro watch _ rfl
  refine Writing.Departs.bind (Writing.Departs.andAlways ?_ _ _) _ _
  apply (headerMatched_variant.lockstep watch).departs
  intro _ _ _
  exact (departs_writeHits 0 h).bind _ _

end Unencodable

variable {s t : Session}

/-- Hits that were written all have their digests. -/
theorem digest_of_writeHits {offset : Int} {index : Nat} {hits : List Fields}
    (h : writeHits options snippets identity offset index hits s = (.ok (), t)) :
    ∀ hit ∈ hits, ∃ d, (Digest.ofFields options hit).outcome = .ok d := by
  induction hits generalizing index s with
  | nil => simp
  | cons hit rest ih =>
    obtain ⟨_, u, hfirst, hrest⟩ := Writing.bind_eq_ok h
    obtain ⟨opening, v, -, hfirst⟩ := Writing.bind_eq_ok hfirst
    obtain ⟨_, w, -, hfirst⟩ := Writing.bind_eq_ok hfirst
    obtain ⟨elements, x, helements, -⟩ := Writing.bind_eq_ok hfirst
    rw [Writing.ofLogged_run] at helements
    obtain ⟨d, hd, -⟩ := Outcome.map_eq_ok.mp (Prod.mk.inj helements).1
    rw [List.forall_mem_cons]
    exact ⟨⟨d, hd⟩, ih hrest⟩

theorem digest_of_write
    (h : page.write options snippets request identity s = (.ok (), t)) :
    ∀ hit ∈ page.hits, ∃ d, (Digest.ofFields options hit).outcome = .ok d := by
  rcases hbody : writeBody options snippets request identity page (Stopwatch.start s.clock).1
      (s.withClock (Stopwatch.start s.clock).2) with ⟨outcome, u⟩
  cases outcome with
  | error cause =>
    rw [write_of_body_error s hbody] at h
    cases h
  | ok done =>
    obtain ⟨_, v, -, hrest⟩ := Writing.bind_eq_ok hbody
    obtain ⟨_, w, hhits, -⟩ := Writing.bind_eq_ok hrest
    exact digest_of_writeHits hhits

/-- Where every hit has a strict digest, leaving malformed numbers out makes no difference. -/
theorem matched_lenient
    (h : ∀ hit ∈ page.hits, ∃ d, (Digest.ofFields options.strict hit).outcome = .ok d) :
    Matched (fun _ _ => False) options.strict options.lenient snippets request identity page := by
  have hsame : ∀ hit ∈ page.hits, hit.elements options.strict snippets identity =
      hit.elements options.lenient snippets identity := by
    intro hit hm
    obtain ⟨d, hd⟩ := h hit hm
    exact congrArg (Logged.map _) (Digest.takeAll_of_strict hd)
  refine ⟨⟨fun _ _ _ _ => SameOr.rel_self _, .refl .refl _⟩, ?_⟩
  intro hit hm
  refine ⟨fun _ => .refl .refl _, by rw [hsame hit hm], ?_⟩
  rw [hsame hit hm]
  apply Outcome.Alike.refl
  intro elements
  exact List.forall₂_same.mpr fun _ _ => SameOr.rel_self _

/-- A page that could be written strictly once has no malformed number, so it is always written in the
same way. -/
theorem same_lenient
    (h : page.write options.strict snippets request identity s = (.ok (), t)) :
    page.write options.strict snippets request identity =
        page.write options.lenient snippets request identity ∧
      ∀ clock, page.document options.strict snippets request identity clock =
        page.document options.lenient snippets request identity clock :=
  (matched_lenient (digest_of_write h)).differOnly.same fun _ _ => False.elim

theorem originalValue_plain {value : Text}
    (h : Text.Lacks [.char '&', .char '<', .char '>', .char '"'] value.toList) (escapeEcho : Bool) :
    originalValue escapeEcho value = value := by
  have hplain : Text.Escape.attr value = value := by
    rw [Text.Escape.attr, Text.Escape.attrValue_plain (h (.char '&') (by simp))
      (h (.char '<') (by simp)) (h (.char '>') (by simp)) (h (.char '"') (by simp)),
      Text.ofList_toList]
  rw [originalValue, hplain, ite_self]

/-- Documents whose differences have surrogates on both sides or on none can be sent alike. -/
theorem DifferOnly.assemble {D : Text → Text → Prop}
    (h : DifferOnly D a b snippets request identity page)
    (hD : ∀ text other, D text other → text.isWellFormed = other.isWellFormed) (clock : Clock) :
    (page.assemble a snippets request identity clock).outcome.isOk =
      (page.assemble b snippets request identity clock).outcome.isOk := by
  have hdocument := h.document clock
  rw [Page.assemble, Page.assemble]
  generalize (page.document a snippets request identity clock).outcome = x at hdocument
  generalize (page.document b snippets request identity clock).outcome = y at hdocument
  cases hdocument with
  | error cause => rfl
  | ok hcontents =>
    obtain ⟨texts, others, htexts, rfl, rfl⟩ := hcontents
    change (Text.join texts).encode.isOk = (Text.join others).encode.isOk
    rw [Text.encode_isOk, Text.encode_isOk]
    induction htexts with
    | nil => rfl
    | cons hfirst _ ih =>
      rw [Text.isWellFormed_join, Text.isWellFormed_join] at ih ⊢
      rw [List.all_cons, List.all_cons, ih, hfirst.elim (congrArg _) (hD _ _)]

theorem isWellFormed_originalValue (escapeEcho : Bool) (value : Text) :
    (originalValue escapeEcho value).isWellFormed = value.isWellFormed := by
  unfold originalValue
  split
  · exact Text.Escape.isWellFormed_attr value
  · rfl

theorem isWellFormed_paramLine (name value original : Text) :
    (paramLine name value original).isWellFormed =
      (name.isWellFormed && value.isWellFormed && original.isWellFormed) := by
  simp [paramLine, Text.isWellFormed_append, Text.Escape.isWellFormed_attr]

theorem isWellFormed_addressLine (second : Text) :
    (addressLine second).isWellFormed = second.isWellFormed := by
  simp [addressLine, Text.isWellFormed_append, Text.Escape.isWellFormed_text]

/-- Escaping the original values of echoed parameters changes just these. -/
theorem differOnly_escapeEcho (options : PageOptions) (snippets : Snippets)
    (request : EchoedRequest) (identity : Text) (page : Page) (x y : Bool) :
    DifferOnly
      (fun text other => ∃ name value, (name, some value) ∈ echoed request page ∧
        text = paramLine name value (originalValue x value) ∧
        other = paramLine name value (originalValue y value))
      { options with escapeEcho := x } { options with escapeEcho := y }
      snippets request identity page := by
  refine differOnly_of_variant rfl (fun _ _ _ _ _ => Or.inl rfl) ?_
  rintro _ _ (⟨name, value, h⟩ | ⟨url, first, second, h⟩ | rest | index)
  · exact Or.inr ⟨name, value, h, rfl, rfl⟩
  · exact Or.inl (congrArg addressLine (Except.ok.inj (h.1.symm.trans h.2)))
  · exact .refl _
  · exact .refl _

/-- Percent-encoding changes just the lines of addresses, where every address has an encoded form. -/
theorem differOnly_encodeAddress (options : PageOptions) (snippets : Snippets)
    (request : EchoedRequest) (identity : Text) (hnone : page.unencodable? = none) (x y : Bool) :
    let a := { options with encodeAddress := x }
    let b := { options with encodeAddress := y }
    DifferOnly
      (fun text other => ∃ url first second,
        (Digest.secondForm a url = .ok first ∧ Digest.secondForm b url = .ok second) ∧
          text = addressLine first ∧ other = addressLine second)
      a b snippets request identity page := by
  have hforms := Digest.unencodable?_eq_none.mp hnone
  refine differOnly_of_variant rfl ?_ ?_
  · intro hit hm entry he hname
    exact Or.inr (hforms entry (List.mem_flatMap.mpr ⟨hit, hm, he⟩) hname)
  · rintro _ _ (⟨name, value, h⟩ | ⟨url, first, second, h⟩ | rest | index)
    · exact .refl _
    · exact Or.inr ⟨url, first, second, h, rfl, rfl⟩
    · exact .refl _
    · exact .refl _

theorem assemble_escapeEcho (options : PageOptions) (snippets : Snippets)
    (request : EchoedRequest) (identity : Text) (page : Page) (x y : Bool) (clock : Clock) :
    (page.assemble { options with escapeEcho := x } snippets request identity
        clock).outcome.isOk =
      (page.assemble { options with escapeEcho := y } snippets request identity
        clock).outcome.isOk := by
  apply (differOnly_escapeEcho options snippets request identity page x y).assemble
  rintro _ _ ⟨name, value, -, rfl, rfl⟩
  rw [isWellFormed_paramLine, isWellFormed_paramLine, isWellFormed_originalValue,
    isWellFormed_originalValue]

theorem differOnly_nextPagePath (options : PageOptions) (snippets : Snippets)
    (request : EchoedRequest) (identity : Text) (page : Page) (x y : Text) :
    DifferOnly
      (fun text other => ∃ rest, text = pagingLine (x ++ rest) ∧ other = pagingLine (y ++ rest))
      { options with nextPagePath := x } { options with nextPagePath := y }
      snippets request identity page := by
  refine differOnly_of_variant rfl (fun _ _ _ _ _ => Or.inl rfl) ?_
  rintro _ _ (⟨name, value, h⟩ | ⟨url, first, second, h⟩ | rest | index)
  · exact .refl _
  · exact Or.inl (congrArg addressLine (Except.ok.inj (h.1.symm.trans h.2)))
  · exact Or.inr ⟨rest, rfl, rfl⟩
  · exact .refl _

theorem differOnly_attributes (options : PageOptions) (snippets : Snippets)
    (request : EchoedRequest) (identity : Text) (page : Page)
    (x y : List Settings.PlacedAttribute) :
    let a := { options with attributes := x }
    let b := { options with attributes := y }
    DifferOnly
      (fun text other => ∃ index : Nat,
        text = hitTag (toString (page.offset + index + 1)) (placedAttributes a index) ∧
        other = hitTag (toString (page.offset + index + 1)) (placedAttributes b index))
      a b snippets request identity page := by
  refine differOnly_of_variant rfl (fun _ _ _ _ _ => Or.inl rfl) ?_
  rintro _ _ (⟨name, value, h⟩ | ⟨url, first, second, h⟩ | rest | index)
  · exact .refl _
  · exact Or.inl (congrArg addressLine (Except.ok.inj (h.1.symm.trans h.2)))
  · exact .refl _
  · exact Or.inr ⟨index, rfl, rfl⟩

/-- A page with an address that has no percent-encoded form is never written with that form. -/
theorem write_unencodable (options : PageOptions) {url : Text}
    (hurl : page.unencodable? = some url) (s : Session) :
    (page.write { options with encodeAddress := true } snippets request identity s).1 ≠
      .ok () := by
  intro hok
  have hdigests := digest_of_write (Prod.ext hok rfl)
  have hnone : page.unencodable? = none := by
    rw [unencodable?, Digest.unencodable?_eq_none]
    intro entry hm
    obtain ⟨hit, hhit, he⟩ := List.mem_flatMap.mp hm
    obtain ⟨d, hd⟩ := hdigests hit hhit
    exact Digest.unencodable?_eq_none.mp (Digest.unencodable?_of_takeAll rfl hd) entry he
  rw [hnone] at hurl
  cases hurl

/-- Each option changes its own place in a page and nothing else. Only an address that has no
percent-encoded form ends a page that asks for that form. -/
theorem options_differ_only (options : PageOptions) (snippets : Snippets) (request : EchoedRequest)
    (identity : Text) (page : Page) :
    (∀ x y : Bool, let a := { options with escapeEcho := x }
      let b := { options with escapeEcho := y }
      DifferOnly
        (fun text other => ∃ name value, (name, some value) ∈ echoed request page ∧
          text = paramLine name value (originalValue x value) ∧
          other = paramLine name value (originalValue y value))
        a b snippets request identity page ∧
      (∀ clock, (page.assemble a snippets request identity clock).outcome.isOk =
        (page.assemble b snippets request identity clock).outcome.isOk) ∧
      ((∀ name value, (name, some value) ∈ echoed request page →
          Text.Lacks [.char '&', .char '<', .char '>', .char '"'] value.toList) →
        page.write a snippets request identity = page.write b snippets request identity ∧
        ∀ clock, page.document a snippets request identity clock =
          page.document b snippets request identity clock)) ∧
    (page.unencodable? = none → ∀ x y : Bool, let a := { options with encodeAddress := x }
      let b := { options with encodeAddress := y }
      DifferOnly
        (fun text other => ∃ url first second,
          (Digest.secondForm a url = .ok first ∧ Digest.secondForm b url = .ok second) ∧
            text = addressLine first ∧ other = addressLine second)
        a b snippets request identity page ∧
      ∀ clock, (page.assemble a snippets request identity clock).outcome.isOk =
        (page.assemble b snippets request identity clock).outcome.isOk) ∧
    (∀ url, page.unencodable? = some url → ∀ s,
      let encoding := { options with encodeAddress := true }
      let plain := { options with encodeAddress := false }
      (page.write encoding snippets request identity s).1 ≠ .ok () ∧
      ((page.write plain snippets request identity s).1 = .ok () →
        (page.write encoding snippets request identity s).1 = .error (.unencodable url))) ∧
    (∀ x y : Text,
      DifferOnly
        (fun text other => ∃ rest, text = pagingLine (x ++ rest) ∧ other = pagingLine (y ++ rest))
        { options with nextPagePath := x } { options with nextPagePath := y }
        snippets request identity page) ∧
    (∀ x y : List Settings.PlacedAttribute, let a := { options with attributes := x }
      let b := { options with attributes := y }
      DifferOnly
        (fun text other => ∃ index : Nat,
          text = hitTag (toString (page.offset + index + 1)) (placedAttributes a index) ∧
          other = hitTag (toString (page.offset + index + 1)) (placedAttributes b index))
        a b snippets request identity page) ∧
    ((∀ s t, page.write options.strict snippets request identity s = (.ok (), t) →
        page.write options.lenient snippets request identity s = (.ok (), t)) ∧
      ∀ clock content,
        (page.document options.strict snippets request identity clock).outcome = .ok content →
        page.document options.strict snippets request identity clock =
          page.document options.lenient snippets request identity clock) := by
  refine ⟨?_, ?_, ?_, ?_, ?_, ?_, ?_⟩
  · intro x y a b
    have hdiffer := differOnly_escapeEcho options snippets request identity page x y
    refine ⟨hdiffer, assemble_escapeEcho options snippets request identity page x y, ?_⟩
    intro hplain
    apply hdiffer.same
    rintro _ _ ⟨name, value, h, rfl, rfl⟩
    rw [originalValue_plain (hplain name value h), originalValue_plain (hplain name value h)]
  · intro hnone x y a b
    have hdiffer := differOnly_encodeAddress options snippets request identity hnone x y
    refine ⟨hdiffer, hdiffer.assemble ?_⟩
    rintro _ _ ⟨url, first, second, ⟨hfirst, hsecond⟩, rfl, rfl⟩
    rw [isWellFormed_addressLine, isWellFormed_addressLine,
      Digest.isWellFormed_secondForm hfirst, Digest.isWellFormed_secondForm hsecond]
  · intro url hurl s encoding plain
    exact ⟨write_unencodable options hurl s,
      fun hok => departs_write options hurl s s _ () (.refl s) (Prod.ext hok rfl)⟩
  · exact differOnly_nextPagePath options snippets request identity page
  · exact differOnly_attributes options snippets request identity page
  · intro s t h
    rw [← (same_lenient h).1, h]
  · intro clock content h
    obtain ⟨_, hdone, -⟩ := Outcome.map_eq_ok.mp h
    have hrun : page.write options.strict snippets request identity { clock := clock } =
        (.ok (), _) := Prod.ext hdone rfl
    exact (same_lenient hrun).2 clock

/-- With half of a surrogate pair for its address, a hit is written as it is, but not
percent-encoded. -/
theorem write_surrogate_address :
    let half : Text := Text.ofList [.surrogate 0]
    let page : Page := { offset := 0, rows := 10, found := 1, hits := [[("sku", [half])]] }
    let s : Session := { clock := Clock.ofList [0.0] }
    (page.write {} [] {} "node" s).1 = .ok () ∧
      (page.write { encodeAddress := true } [] {} "node" s).1 = .error (.unencodable half) := by
  intro half page s
  have hok : (page.texts {} [] {} "node" (s.clock.span 1)).isOk = true := by decide +kernel
  obtain ⟨ts, hts⟩ := Outcome.isOk_iff.mp hok
  have hs : s.Endless := rfl
  have hplain := write_ok hs hts
  have hurl : page.unencodable? = some half := by decide
  have hfails := departs_write {} hurl s s _ () (.refl s) hplain
  exact ⟨congrArg Prod.fst hplain, hfails⟩

-- A quotation mark that is repeated as it came in ends the original value.
example : (paramLine "q" "\"" (originalValue false "\"")).toList =
    ("<PARAM name=\"q\" value=\"&quot;\" original_value=\"\"\"/>\n" : Text).toList := by decide +kernel

end Page

end SearchAppliance
