import SearchAppliance.Proofs.Page.Options
import SearchAppliance.Proofs.Result.Shown

namespace SearchAppliance

open Settings (PageOptions)
open Text (Has isXmlChar isXmlText)

variable {c : CodePoint}

namespace Piece

/-- The texts of a piece that are written as they are. -/
def frame (p : Piece) : List Text := p.name :: p.tail :: p.attributes.map (·.1)

theorem mem_writtenAttributes (hc : isXmlChar c = false) {attributes : List (Text × Text)}
    (hk : ∀ key ∈ attributes.map (·.1), isXmlText key = true) :
    c ∈ writtenAttributes attributes ↔ Has (attributes.map (·.2)) c := by
  induction attributes with
  | nil => simp [writtenAttributes]
  | cons attr more ih =>
    rw [List.map_cons, List.forall_mem_cons] at hk
    have hkey := Text.not_mem_of_isXmlText hc hk.1
    have hmarks : c ∉ (" =\"" : Text).toList := Text.not_mem_of_isXmlText hc rfl
    have hmore := ih hk.2
    unfold writtenAttributes at hmore ⊢
    simp at hmarks
    simp [hmore, hkey, hmarks, Text.Escape.mem_attrValue hc]

/-- A piece whose names are plain has what its values and its text have. -/
theorem mem_written (hc : isXmlChar c = false) {p : Piece} (names : List Text)
    (hp : p.frame = names) (hn : names.all isXmlText = true) :
    c ∈ p.written ↔ Has (p.attributes.map (·.2)) c ∨ c ∈ p.text.toList := by
  simp only [← hp, frame, List.all_cons, Bool.and_eq_true, List.all_eq_true] at hn
  obtain ⟨hname, htail, hkeys⟩ := hn
  have hname := Text.not_mem_of_isXmlText hc hname
  have htail := Text.not_mem_of_isXmlText hc htail
  have hmarks : c ∉ ("<>" : Text).toList := Text.not_mem_of_isXmlText hc rfl
  simp at hmarks
  simp [written, chunk, hname, htail, hmarks, mem_writtenAttributes hc hkeys,
    Text.Escape.mem_charData hc]

end Piece

theorem break_not_mem (hc : isXmlChar c = false) : c ∉ ("\n" : Text).toList :=
  Text.not_mem_of_isXmlText hc rfl

theorem has_filled? (value : Option Text) :
    Has (Element.filled? value).toList c ↔ Has value.toList c := by
  cases value with
  | none => rfl
  | some text => by_cases h : text = "" <;> simp [Element.filled?, Option.filter, h]

theorem mem_linePieces (hc : isXmlChar c = false) {name : Text} (hn : isXmlText name = true)
    (value : Option Text) :
    c ∈ (linePieces name value).flatMap Piece.written ↔ Has value.toList c := by
  rw [← has_filled?, linePieces]
  cases Element.filled? value with
  | none => simp
  | some v =>
    have hstart : [name, ""].all isXmlText = true := by
      simp only [List.all_cons, hn]
      rfl
    have hend : ["/" ++ name, ""].all isXmlText = true := by
      simp only [List.all_cons, Text.isXmlText_append, hn]
      rfl
    simp only [Option.toList_some, List.flatMap_cons, List.flatMap_nil, List.append_nil,
      List.mem_append]
    rw [Piece.mem_written hc [name, ""] rfl hstart,
      Piece.mem_written hc ["/" ++ name, ""] rfl hend]
    simp only [List.map_nil, Text.has_cons, Text.has_nil, break_not_mem hc, false_or, or_false]

theorem mem_paramPieces (hc : isXmlChar c = false) {name : Text} (hn : isXmlText name = true)
    (value : Option Text) :
    c ∈ (paramPieces name value).flatMap Piece.written ↔ Has value.toList c := by
  rw [← has_filled?, paramPieces]
  cases Element.filled? value with
  | none => simp
  | some v =>
    have hname := Text.not_mem_of_isXmlText hc hn
    simp only [Option.toList_some, List.map_cons, List.map_nil, List.flatMap_singleton]
    rw [Piece.mem_written hc ["PARAM", "/", "name", "value", "original_value"] rfl (by decide)]
    simp only [List.map_cons, List.map_nil, Text.has_cons, Text.has_nil, hname,
      break_not_mem hc, false_or, or_false, or_self]

theorem closingPiece_not_mem (hc : isXmlChar c = false) {name : Text}
    (hn : isXmlText name = true) : c ∉ (closingPiece name).written := by
  have hnames : ["/" ++ name, ""].all isXmlText = true := by
    simp only [List.all_cons, Text.isXmlText_append, hn]
    rfl
  rw [Piece.mem_written hc ["/" ++ name, ""] rfl hnames]
  simp only [closingPiece, List.map_nil, Text.has_nil, break_not_mem hc, or_self, not_false_eq_true]

theorem mem_featurePieces (hc : isXmlChar c = false) (d : Digest) :
    c ∈ (featurePieces d).flatMap Piece.written ↔ c ∈ (d.documentId.getD "").toList := by
  have hsize : c ∉ (kilobyteText d.size : Text).toList := by
    apply Text.not_mem_of_isXmlText hc
    have hk : (kilobyteText d.size : Text) = toString (kilobytes d.size) ++ "k" :=
      Text.ofString_append _ _
    rw [hk, Text.isXmlText_append, Number.isXmlText_toString]
    rfl
  have hencoding : c ∉ ("UTF-8" : Text).toList := Text.not_mem_of_isXmlText hc rfl
  have hempty : c ∉ ("" : Text).toList := List.not_mem_nil
  simp only [featurePieces, List.flatMap_cons, List.flatMap_nil, List.append_nil, List.mem_append]
  rw [Piece.mem_written hc ["HAS", ""] rfl (by decide),
    Piece.mem_written hc ["L/", ""] rfl (by decide),
    Piece.mem_written hc ["C", "/", "SZ", "CID", "ENC"] rfl (by decide),
    Piece.mem_written hc ["/HAS", ""] rfl (by decide)]
  simp only [List.map_cons, List.map_nil, Text.has_cons, Text.has_nil, hsize, hencoding, hempty,
    or_false, false_or]

theorem Tag.isXmlText_name (tag : Tag) : isXmlText tag.name = true := by
  cases tag <;> decide

theorem mem_tagPieces (hc : isXmlChar c = false) (tags : List (Tag × Text)) :
    c ∈ (tags.flatMap fun entry => linePieces entry.1.name (some entry.2)).flatMap Piece.written ↔
      Has (tags.map (·.2)) c := by
  induction tags with
  | nil => simp
  | cons entry rest ih =>
    rw [List.flatMap_cons, List.flatMap_append, List.mem_append, ih,
      mem_linePieces hc entry.1.isXmlText_name, Text.has_toList]
    simp

/-- The elements of a hit have the characters of its tags, its snippet, its description, its
identifier and the node that contributes it. -/
theorem mem_elementPieces (hc : isXmlChar c = false) (d : Digest) (snippets : Snippets)
    (identity : Text) :
    c ∈ ((d.elements snippets identity).flatMap (elementPieces d)).flatMap Piece.written ↔
      Has (d.tags.map (·.2)) c ∨ c ∈ (d.snippet snippets).toList ∨ c ∈ d.description.toList ∨
        c ∈ (d.documentId.getD "").toList ∨ c ∈ identity.toList := by
  have hline (tag : Tag) (value : Text) :
      c ∈ (linePieces tag.name (some value)).flatMap Piece.written ↔ c ∈ value.toList := by
    rw [mem_linePieces hc tag.isXmlText_name, Text.has_toList, Option.getD_some]
  rw [Digest.elements, List.flatMap_append, List.flatMap_append, List.mem_append, List.flatMap_map]
  simp only [elementPieces, mem_tagPieces hc, List.flatMap_cons, List.flatMap_nil,
    List.flatMap_append, List.append_nil, List.mem_append, hline, mem_featurePieces hc]

/-- The values of a request that a page repeats. -/
def EchoedRequest.texts (request : EchoedRequest) : List Text :=
  [request.query, request.sort, request.client, request.site, request.ip, request.access,
    request.entqr].flatMap Option.toList

namespace Page

variable {options : PageOptions} {snippets : Snippets} {request : EchoedRequest}
  {identity : Text} {page : Page}

theorem has_texts {request : EchoedRequest} :
    Has request.texts c ↔ c ∈ (request.query.getD "").toList ∨ c ∈ (request.sort.getD "").toList ∨
      c ∈ (request.client.getD "").toList ∨ c ∈ (request.site.getD "").toList ∨
      c ∈ (request.ip.getD "").toList ∨ c ∈ (request.access.getD "").toList ∨
      c ∈ (request.entqr.getD "").toList := by
  simp only [EchoedRequest.texts, List.flatMap_cons, List.flatMap_nil, Text.has_append,
    Text.has_toList, Text.has_nil, or_false]

theorem mem_nextLink (hc : isXmlChar c = false) {link : Text}
    (h : page.nextLink options request = .ok link) :
    (c ∈ options.nextPagePath.toList → c ∈ link.toList) ∧
      (c ∈ link.toList → c ∈ options.nextPagePath.toList ∨ Has request.texts c) := by
  obtain ⟨start, hs, h⟩ := Outcome.bind_eq_ok.mp h
  obtain ⟨-, rfl⟩ := Number.write_eq_ok.mp hs
  have hstart := Text.not_mem_of_isXmlText hc (Number.isXmlText_toString page.nextStart)
  have hplain (text : Text) (ht : isXmlText text = true) : c ∉ text.toList :=
    Text.not_mem_of_isXmlText hc ht
  rw [← Outcome.pure_eq_ok.mp h, has_texts]
  simp only [Text.toList_append, List.mem_append, hstart, hplain "?q=" rfl,
    hplain "&site=" rfl, hplain "&lr=&ie=" rfl, hplain encoding rfl, hplain "&oe=" rfl,
    hplain "&output=" rfl, hplain outputMode (by decide), hplain "&client=" rfl,
    hplain "&access=" rfl, hplain "&sort=" rfl, hplain "&start=" rfl, hplain "&sa=N" rfl, or_false]
  refine ⟨fun hpath => by simp only [hpath, true_or], ?_⟩
  rintro (((((hm | hm) | hm) | hm) | hm) | hm) <;> simp only [hm, true_or, or_true]

theorem mem_params (hc : isXmlChar c = false) (request : EchoedRequest) (page : Page) :
    c ∈ ((echoed request page).flatMap fun param => paramPieces param.1 param.2).flatMap
      Piece.written ↔ Has request.texts c := by
  have hnumber (n : Int) := Text.not_mem_of_isXmlText hc (Number.isXmlText_toString n)
  have hmode : c ∉ (outputMode : Text).toList := Text.not_mem_of_isXmlText hc (by decide)
  have hencoding : c ∉ (encoding : Text).toList := Text.not_mem_of_isXmlText hc rfl
  rw [has_texts]
  simp (disch := decide) only [echoed, List.flatMap_cons, List.flatMap_nil, List.flatMap_append,
    List.append_nil, List.mem_append, mem_paramPieces hc, Text.has_toList, Option.getD_some,
    hnumber, hmode, hencoding, false_or]
  simp only [or_left_comm]

theorem prologPieces_not_mem (hc : isXmlChar c = false) :
    c ∉ prologPieces.flatMap Piece.written := by
  rw [← spells_prolog.chars, List.flatMap_singleton]
  exact Text.not_mem_of_isXmlText hc (by decide)

theorem openingPiece_not_mem (hc : isXmlChar c = false) (page : Page) :
    c ∉ page.openingPiece.written := by
  have hnumber (n : Int) := Text.not_mem_of_isXmlText hc (Number.isXmlText_toString n)
  rw [Piece.mem_written hc ["RES", "", "SN", "EN"] rfl (by decide)]
  simp only [openingPiece, List.map_cons, List.map_nil, Text.has_cons, Text.has_nil, hnumber,
    break_not_mem hc, or_self, not_false_eq_true]

theorem mem_pagingPieces (hc : isXmlChar c = false) (page : Page) (link : Text) :
    c ∈ (page.pagingPieces link).flatMap Piece.written ↔ c ∈ link.toList := by
  have hnumber := Text.not_mem_of_isXmlText hc (Number.isXmlText_toString page.found)
  have hclosing (name : Text) (hn : isXmlText name = true) : c ∉ (closingPiece name).written :=
    closingPiece_not_mem hc hn
  have hempty : c ∉ ("" : Text).toList := List.not_mem_nil
  simp only [pagingPieces, List.flatMap_cons, List.flatMap_nil, List.append_nil, List.mem_append,
    hclosing "M" rfl, hclosing "NB" rfl]
  rw [Piece.mem_written hc ["M", ""] rfl (by decide),
    Piece.mem_written hc ["FI/", ""] rfl (by decide),
    Piece.mem_written hc ["NB", ""] rfl (by decide),
    Piece.mem_written hc ["NU", ""] rfl (by decide),
    Piece.mem_written hc ["/NU", ""] rfl (by decide)]
  simp only [List.map_nil, Text.has_nil, hnumber, hempty, break_not_mem hc, or_false, false_or]

/-- Before the first hit stand the values of the request and the path of the next page. -/
theorem mem_headerPieces (hc : isXmlChar c = false) (page : Page) (time : Int) {link : Text}
    (h : page.nextLink options request = .ok link) :
    c ∈ (headerPieces request page time link).flatMap Piece.written ↔
      c ∈ options.nextPagePath.toList ∨ Has request.texts c := by
  have htime : ¬Has (some (toString time : Text)).toList c := by
    rw [Text.has_toList]
    exact Text.not_mem_of_isXmlText hc (Number.isXmlText_toString time)
  have hquery : Has request.query.toList c → Has request.texts c := by
    rw [Text.has_toList, has_texts]
    exact Or.inl
  obtain ⟨hpath, hlink⟩ := mem_nextLink hc h
  simp only [headerPieces, List.flatMap_append, List.flatMap_cons, List.mem_append,
    prologPieces_not_mem hc, openingPiece_not_mem hc, mem_pagingPieces hc, mem_params hc,
    mem_linePieces hc (rfl : isXmlText "TM" = true), mem_linePieces hc (rfl : isXmlText "Q" = true),
    htime, false_or]
  constructor
  · rintro ((hq | ht) | hl)
    · exact Or.inr (hquery hq)
    · exact Or.inr ht
    · exact hlink hl
  · rintro (hp | ht)
    · exact Or.inr (hpath hp)
    · exact Or.inl (Or.inr ht)

/-- May the names and values of further attributes stand in an XML document? -/
def PlainAttributes (options : PageOptions) : Prop :=
  ∀ attr ∈ options.attributes, isXmlText attr.name = true ∧ isXmlText attr.value = true

theorem hitPiece_not_mem (hc : isXmlChar c = false) (hp : PlainAttributes options) (offset : Int)
    (index : Nat) : c ∉ (hitPiece options offset index).written := by
  have hrank := Text.not_mem_of_isXmlText hc (Number.isXmlText_toString (offset + index + 1))
  have hplaced : ∀ pair ∈ placed options index,
      isXmlText pair.1 = true ∧ isXmlText pair.2 = true := by
    intro pair hm
    obtain ⟨attr, ha, rfl⟩ := List.mem_map.mp hm
    exact hp attr (List.mem_filter.mp ha).1
  let names : List Text := "R" :: "" :: "N" :: (placed options index).map (·.1)
  have hnames : names.all isXmlText = true := by
    have hkeys : ((placed options index).map (·.1)).all isXmlText = true := by
      rw [List.all_map, List.all_eq_true]
      exact fun pair hm => (hplaced pair hm).1
    simp only [names, List.all_cons, hkeys]
    decide
  have hvalues : ¬Has ((placed options index).map (·.2)) c := by
    rintro ⟨value, hm, hmem⟩
    obtain ⟨pair, hpair, rfl⟩ := List.mem_map.mp hm
    exact Text.not_mem_of_isXmlText hc (hplaced pair hpair).2 hmem
  rw [Piece.mem_written hc names rfl hnames]
  simp only [hitPiece, List.map_cons, Text.has_cons, hrank, hvalues, break_not_mem hc, or_self,
    not_false_eq_true]

theorem mem_blockPieces (hc : isXmlChar c = false) (hp : PlainAttributes options) (offset : Int)
    (index : Nat) {hit : Fields} {d : Digest} (hd : (Digest.ofFields options hit).outcome = .ok d) :
    c ∈ (blockPieces options snippets identity offset d index).flatMap Piece.written ↔
      Has (identity :: hit.shownTexts snippets) c := by
  have hshown := (Digest.ofFields_shows hc hd).has_shownTexts snippets
  simp only [blockPieces, List.flatMap_cons, List.flatMap_append, List.flatMap_nil, List.append_nil,
    List.mem_append, hitPiece_not_mem hc hp, mem_elementPieces hc,
    closingPiece_not_mem hc (rfl : isXmlText "R" = true), false_or, or_false, Text.has_cons, hshown]
  simp only [or_assoc, or_comm, or_left_comm]

theorem mem_blocksPieces (hc : isXmlChar c = false) (hp : PlainAttributes options) (offset : Int)
    (index : Nat) {hits : List Fields} {digests : List Digest}
    (hd : hits.mapM (fun hit => (Digest.ofFields options hit).outcome) = .ok digests) :
    c ∈ ((digests.zipIdx index).flatMap fun entry =>
        blockPieces options snippets identity offset entry.1 entry.2).flatMap Piece.written ↔
      Has (hits.flatMap fun hit => identity :: hit.shownTexts snippets) c := by
  induction hits generalizing index digests with
  | nil =>
    rw [← Outcome.pure_eq_ok.mp hd]
    simp
  | cons hit rest ih =>
    rw [List.mapM_cons] at hd
    obtain ⟨d, hfirst, hd⟩ := Outcome.bind_eq_ok.mp hd
    obtain ⟨more, hrest, hd⟩ := Outcome.bind_eq_ok.mp hd
    rw [← Outcome.pure_eq_ok.mp hd, List.zipIdx_cons, List.flatMap_cons, List.flatMap_append,
      List.mem_append, mem_blockPieces hc hp offset index hfirst, ih (index + 1) hrest,
      List.flatMap_cons, Text.has_append]

/-- The texts that a page shows: the path of the next page, the values of the request, and for each
hit the node that contributes it and the texts of the hit. -/
def shownTexts (options : PageOptions) (snippets : Snippets) (request : EchoedRequest)
    (identity : Text) (page : Page) : List Text :=
  options.nextPagePath :: request.texts
    ++ page.hits.flatMap fun hit => identity :: hit.shownTexts snippets

theorem plainAttributes_of_default (ha : options.attributes = ({} : PageOptions).attributes) :
    PlainAttributes options := by
  unfold PlainAttributes
  rw [ha]
  decide

theorem valid_of_default (ha : options.attributes = ({} : PageOptions).attributes) :
    options.Valid := by
  unfold PageOptions.Valid
  rw [ha]
  decide

theorem mem_document (hc : isXmlChar c = false)
    (ha : options.attributes = ({} : PageOptions).attributes) (he : options.escapeEcho = true)
    {clock : Clock} {content : Text}
    (h : (page.document options snippets request identity clock).outcome = .ok content) :
    c ∈ content.toList ↔ Has (page.shownTexts options snippets request identity) c := by
  rw [document_outcome] at h
  obtain ⟨ts, hts, rfl⟩ := Outcome.map_eq_ok.mp h
  obtain ⟨time, link, digests, -, hlink, hdigests, hspells⟩ :=
    spells_texts (valid_of_default ha) he hts
  rw [Text.toList_join, hspells.chars]
  simp only [List.flatMap_append, List.flatMap_cons, List.flatMap_nil, List.append_nil,
    List.mem_append, mem_headerPieces hc page time hlink,
    mem_blocksPieces hc (plainAttributes_of_default ha) page.offset 0 hdigests,
    closingPiece_not_mem hc (rfl : isXmlText "RES" = true),
    closingPiece_not_mem hc (rfl : isXmlText "GSP" = true), or_false, shownTexts, List.cons_append,
    Text.has_cons, Text.has_append, or_assoc]

/-- A document can be sent exactly if no text that it shows has surrogates. -/
theorem assemble_isOk (ha : options.attributes = ({} : PageOptions).attributes) {clock : Clock}
    {content : Text}
    (h : (page.document options snippets request identity clock).outcome = .ok content) :
    (page.assemble options snippets request identity clock).outcome.isOk = true ↔
      ∀ text ∈ page.shownTexts options snippets request identity, text.isWellFormed = true := by
  -- Whether original values are escaped makes no difference to surrogates.
  let escaping := { options with escapeEcho := true }
  obtain ⟨escaped, he⟩ : ∃ escaped,
      (page.document escaping snippets request identity clock).outcome = .ok escaped := by
    have hdiffer :=
      differOnly_escapeEcho options snippets request identity page true options.escapeEcho
    exact Outcome.isOk_iff.mp ((hdiffer.document clock).isOk_eq.trans (Outcome.isOk_iff.mpr ⟨_, h⟩))
  have hsame : (page.assemble options snippets request identity clock).outcome.isOk =
      escaped.isWellFormed := by
    rw [← Text.encode_isOk]
    have hassemble :=
      assemble_escapeEcho options snippets request identity page options.escapeEcho true clock
    rw [hassemble, Page.assemble, he]
    rfl
  rw [hsame, Text.isWellFormed_iff]
  have hattributes : escaping.attributes = ({} : PageOptions).attributes := ha
  have hshown : page.shownTexts options snippets request identity =
    page.shownTexts escaping snippets request identity := rfl
  have hchars (n : Fin 2048) : CodePoint.surrogate n ∈ escaped.toList ↔
      Has (page.shownTexts escaping snippets request identity) (.surrogate n) :=
    mem_document (Text.isXmlChar_surrogate n) hattributes rfl he
  rw [hshown]
  simp only [Text.isWellFormed_iff, hchars]
  constructor
  · intro h text ht n hn
    exact h n ⟨text, ht, hn⟩
  · rintro h n ⟨text, ht, hn⟩
    exact h text ht n hn

/-- A character that no XML document may have is in a page exactly if it is in one of the texts that
the page shows. -/
theorem document_characters (options : PageOptions) (snippets : Snippets) (request : EchoedRequest)
    (identity : Text) (clock : Clock) (page : Page) (content : String)
    (ha : options.attributes = ({} : PageOptions).attributes) (he : options.escapeEcho = true)
    (h : (page.assemble options snippets request identity clock).outcome = .ok content) :
    let texts := page.shownTexts options snippets request identity
    (∀ c, isXmlChar c = false →
        (c ∈ (content : Text).toList ↔ ∃ text ∈ texts, c ∈ text.toList)) ∧
      (isXmlText content = true ↔ ∀ text ∈ texts, isXmlText text = true) := by
  intro texts
  have hdocument := document_of_assemble h
  have hchars (c : CodePoint) (hc : isXmlChar c = false) :
      c ∈ (content : Text).toList ↔ Has texts c := mem_document hc ha he hdocument
  refine ⟨hchars, ?_⟩
  constructor
  · intro hcontent text ht
    rw [Text.isXmlText_iff] at hcontent ⊢
    intro c hc hm
    exact hcontent c hc ((hchars c hc).mpr ⟨text, ht, hm⟩)
  · intro htexts
    rw [Text.isXmlText_iff]
    intro c hc hm
    obtain ⟨text, ht, hmem⟩ := (hchars c hc).mp hm
    exact Text.not_mem_of_isXmlText hc (htexts text ht) hmem

/-- Markup, tabs and line ends are no such characters. -/
theorem document_characters_plain :
    let options : PageOptions := { escapeEcho := true }
    let request : EchoedRequest := { query := some "<tea>\t&\r\n" }
    let page : Page := {
      offset := 0, rows := 10, found := 1
      hits := [[("id", ["a"]), ("sku", ["/?a&b"]), ("title", ["\"Té\""])]] }
    options.attributes = ({} : PageOptions).attributes ∧ options.escapeEcho = true ∧
      ∃ content, (page.assemble options [] request "node" (Clock.ofList [0.0])).outcome =
        .ok content ∧ isXmlText content = true := by
  intro options request page
  have hok :
      (page.assemble options [] request "node" (Clock.ofList [0.0])).outcome.isOk = true := by
    rw [assemble_outcome]
    decide +kernel
  obtain ⟨content, h⟩ := Outcome.isOk_iff.mp hok
  have hshown : ∀ text ∈ page.shownTexts options [] request "node", isXmlText text = true := by
    decide +kernel
  refine ⟨rfl, rfl, content, h, ?_⟩
  exact (document_characters options [] request "node" _ page content rfl rfl h).2.mpr hshown

/-- A control character in a title is written as it is. -/
theorem document_control_character :
    let options : PageOptions := { escapeEcho := true }
    let page : Page := {
      offset := 0, rows := 10, found := 1
      hits := [[("title", ["a\x01b"])]] }
    options.attributes = ({} : PageOptions).attributes ∧ options.escapeEcho = true ∧
      ∃ content, (page.assemble options [] {} "node" (Clock.ofList [0.0])).outcome = .ok content ∧
        '\x01' ∈ content.toList ∧ isXmlChar '\x01' = false := by
  intro options page
  have hok : (page.assemble options [] {} "node" (Clock.ofList [0.0])).outcome.isOk = true := by
    rw [assemble_outcome]
    decide +kernel
  obtain ⟨content, h⟩ := Outcome.isOk_iff.mp hok
  have hshown : Has (page.shownTexts options [] {} "node") '\x01' :=
    ⟨"a\x01b", by decide, by decide⟩
  have hc : isXmlChar '\x01' = false := rfl
  have ha : options.attributes = ({} : PageOptions).attributes := rfl
  have he : options.escapeEcho = true := rfl
  have hmem := (mem_document hc ha he (document_of_assemble h)).mpr hshown
  exact ⟨ha, he, content, h, Text.char_mem_map.mp hmem, hc⟩

end Page

end SearchAppliance
