import SearchAppliance.Proofs.Number.DecimalText
import SearchAppliance.Proofs.Page.Texts
import SearchAppliance.Proofs.Result.Digest
import SearchAppliance.Proofs.Settings.PageOptions
import SearchAppliance.Proofs.SortOrder
import SearchAppliance.Proofs.Text.Markup

namespace SearchAppliance

open Settings (PageOptions)
open Text.Escape

namespace Piece

theorem sound_plain {name : Text} (hn : Text.Lacks nameStops name.toList)
    (text : Text) : Sound { name := name, text := text } where
  name := hn
  keys := by simp
  tail := by simp
  bare := fun _ => rfl

theorem sound_closing {name : Text} (hn : Text.Lacks nameStops name.toList)
    (text : Text) : Sound { name := "/" ++ name, text := text } := by
  apply sound_plain
  intro c hc
  have hslash : c ≠ '/' := by
    rintro rfl
    exact absurd hc (by decide)
  simp [hslash, hn c hc]

theorem sound_of_keys {name tail text : Text} {attributes : List (Text × Text)}
    (keys : List Text) (hkeys : attributes.map (·.1) = keys)
    (hn : Text.Lacks nameStops name.toList)
    (hk : ∀ key ∈ keys, Text.Lacks keyStops key.toList)
    (ht : Text.Lacks tailStops tail.toList) (hne : keys ≠ []) :
    Sound { name := name, attributes := attributes, tail := tail, text := text } where
  name := hn
  keys := fun attr ha => hk attr.1 (hkeys ▸ List.mem_map_of_mem ha)
  tail := ht
  bare := by
    rintro rfl
    exact absurd hkeys.symm hne

end Piece

/-- Do texts, one after another, spell pieces? -/
structure Spells (texts : List Text) (ps : List Piece) : Prop where
  chars : texts.flatMap Text.toList = ps.flatMap Piece.written
  sound : ∀ p ∈ ps, p.Sound

namespace Spells

variable {texts more : List Text} {ps qs : List Piece}

theorem nil : Spells [] [] := ⟨rfl, by simp⟩

theorem single {text : Text} {p : Piece} (hc : text.toList = p.written) (hs : p.Sound) :
    Spells [text] [p] where
  chars := by rw [List.flatMap_singleton, List.flatMap_singleton, hc]
  sound := by
    intro q hq
    rwa [List.mem_singleton.mp hq]

theorem append (h : Spells texts ps) (h' : Spells more qs) : Spells (texts ++ more) (ps ++ qs) where
  chars := by rw [List.flatMap_append, List.flatMap_append, h.chars, h'.chars]
  sound := by
    intro p hp
    exact (List.mem_append.mp hp).elim (h.sound p) (h'.sound p)

theorem filterMap {α : Type} {f : α → Option Text} {g : α → List Piece} {xs : List α}
    (h : ∀ x ∈ xs, Spells (f x).toList (g x)) : Spells (xs.filterMap f) (xs.flatMap g) := by
  induction xs with
  | nil => exact nil
  | cons x xs ih =>
    have hx := h x List.mem_cons_self
    have hxs := ih fun y hy => h y (List.mem_cons_of_mem x hy)
    have hcons := hx.append hxs
    rw [List.flatMap_cons, List.filterMap_cons]
    cases hf : f x with
    | none => simpa [hf] using hcons
    | some text => simpa [hf] using hcons

/-- What texts spell is read from the document that they make. -/
theorem readAll (h : Spells texts ps) : Piece.readAll (Text.join texts).toList = ps := by
  rw [Text.toList_join, h.chars]
  exact Piece.readAll_written h.sound

end Spells

theorem charData_toString (n : Int) :
    charData ((toString n).toList.map .char) = (toString n).toList.map .char :=
  charData_plain (Number.not_mem_toString n (by decide) rfl)
    (Number.not_mem_toString n (by decide) rfl) (Number.not_mem_toString n (by decide) rfl)

theorem attrValue_toString (n : Int) :
    attrValue ((toString n).toList.map .char) = (toString n).toList.map .char :=
  attrValue_plain (Number.not_mem_toString n (by decide) rfl)
    (Number.not_mem_toString n (by decide) rfl) (Number.not_mem_toString n (by decide) rfl)
    (Number.not_mem_toString n (by decide) rfl)

theorem attrValue_kilobyteText (size : Int) :
    attrValue ((kilobyteText size).toList.map .char) = (kilobyteText size).toList.map .char := by
  have hk : (kilobyteText size : Text) = toString (kilobytes size) ++ "k" :=
    Text.ofString_append _ _
  have hnot {c : Char} (hm : c ≠ '-') (hd : c.isDigit = false) (hc : c ≠ 'k') :
      .char c ∉ (kilobyteText size : Text).toList := by
    rw [hk, Text.toList_append, List.mem_append, not_or]
    exact ⟨Number.not_mem_toString _ hm hd, by simpa using hc⟩
  exact attrValue_plain (hnot (by decide) rfl (by decide)) (hnot (by decide) rfl (by decide))
    (hnot (by decide) rfl (by decide)) (hnot (by decide) rfl (by decide))

/-- The pieces of a line with an element; there are none if it is empty. -/
def linePieces (name : Text) (value : Option Text) : List Piece :=
  (Element.filled? value).toList.flatMap fun v =>
    [{ name := name, text := v }, { name := "/" ++ name, text := "\n" }]

theorem spells_line (name : Text) (hn : Text.Lacks Piece.nameStops name.toList)
    (value : Option Text) : Spells (Element.line? name value).toList (linePieces name value) := by
  unfold Element.line? linePieces
  cases Element.filled? value with
  | none => exact Spells.nil
  | some v =>
    refine ⟨?_, ?_⟩
    · simp [Text.Escape.text, Piece.written, Piece.chunk, Piece.writtenAttributes]
      rfl
    · intro p hp
      simp only [Option.toList_some, List.flatMap_singleton, List.mem_cons, List.not_mem_nil,
        or_false] at hp
      rcases hp with rfl | rfl
      · exact Piece.sound_plain hn v
      · exact Piece.sound_closing hn "\n"

/-- The piece of an echoed parameter; there is none if it is empty. -/
def paramPieces (name : Text) (value : Option Text) : List Piece :=
  (Element.filled? value).toList.map fun v =>
    { name := "PARAM"
      attributes := [("name", name), ("value", v), ("original_value", v)]
      tail := "/"
      text := "\n" }

theorem spells_param {name : Text} (hn : attrValue name.toList = name.toList)
    (value : Option Text) :
    Spells (Element.param? true name value).toList (paramPieces name value) := by
  unfold Element.param? paramPieces
  cases Element.filled? value with
  | none => exact Spells.nil
  | some v =>
    apply Spells.single
    · simp [Text.Escape.attr, Piece.written, Piece.chunk, Piece.writtenAttributes,
        hn]
      rfl
    · exact Piece.sound_of_keys ["name", "value", "original_value"] rfl (by decide) (by decide)
        (by decide) (by decide)

/-- The piece of an end tag on a line of its own. -/
def closingPiece (name : Text) : Piece := { name := "/" ++ name, text := "\n" }

theorem spells_closing (name : Text) (hn : Text.Lacks Piece.nameStops name.toList) :
    Spells [Element.closing name] [closingPiece name] := by
  apply Spells.single
  · simp [Element.closing, closingPiece, Piece.written, Piece.chunk,
      Piece.writtenAttributes]
    rfl
  · exact Piece.sound_closing hn "\n"

/-- The piece of the features of a hit, inside its tags. -/
def featurePieces (d : Digest) : List Piece :=
  [{ name := "HAS" }, { name := "L/" },
    { name := "C"
      attributes := [("SZ", kilobyteText d.size), ("CID", d.documentId.getD ""), ("ENC", "UTF-8")]
      tail := "/" },
    { name := "/HAS" }]

theorem spells_features (d : Digest) : Spells [d.features] (featurePieces d) := by
  refine ⟨?_, ?_⟩
  · unfold Digest.features featurePieces
    simp [Text.Escape.attr, Piece.written, Piece.chunk, Piece.writtenAttributes,
      attrValue_kilobyteText]
    rfl
  · simp only [featurePieces, List.forall_mem_cons]
    refine ⟨Piece.sound_plain (by decide) _, Piece.sound_plain (by decide) _, ?_,
      Piece.sound_plain (by decide) _, by simp⟩
    exact Piece.sound_of_keys ["SZ", "CID", "ENC"] rfl (by decide) (by decide) (by decide)
      (by decide)

/-- The pieces of an element of a hit; its only ready markup are its features. -/
def elementPieces (d : Digest) : Element → List Piece
  | .text name value => linePieces name value
  | .markup _ => featurePieces d

theorem Tag.name_sound (tag : Tag) : Text.Lacks Piece.nameStops (tag.name : Text).toList := by
  cases tag <;> decide

theorem spells_elements (d : Digest) (snippets : Snippets) (identity : Text) :
    Spells ((d.elements snippets identity).filterMap Element.written?)
      ((d.elements snippets identity).flatMap (elementPieces d)) := by
  apply Spells.filterMap
  intro element he
  rcases Digest.mem_elements he with ⟨tag, value, rfl⟩ | rfl
  · exact spells_line tag.name tag.name_sound value
  · exact spells_features d

namespace Page

variable {options : PageOptions} {snippets : Snippets} {request : EchoedRequest}
  {identity : Text} {page : Page}

/-- The parameters that a page repeats, in order, if its numbers are written out. -/
def echoed (request : EchoedRequest) (page : Page) : List (Text × Option Text) :=
  [("sort", request.sort), ("output", some outputMode), ("ie", some encoding),
    ("oe", some encoding), ("client", request.client), ("q", request.query),
    ("site", request.site), ("start", some (toString page.offset)),
    ("num", some (toString page.rows)), ("ip", request.ip), ("access", request.access),
    ("entqr", request.entqr)]

theorem sortOf_raw (request : EchoedRequest) :
    (sortOf request).map (·.raw) = Element.filled? request.sort := by
  rw [sortOf, Option.map_map]
  cases Element.filled? request.sort with
  | none => rfl
  | some expression => exact congrArg some (SortExpression.parse_raw expression)

/-- The sort expression is repeated as it came in. -/
theorem param?_sortOf (escapeEcho : Bool) (request : EchoedRequest) :
    Element.param? escapeEcho "sort" ((sortOf request).map (·.raw)) =
      Element.param? escapeEcho "sort" request.sort := by
  rw [sortOf_raw, Element.param?, Element.param?]
  unfold Element.filled?
  cases request.sort with
  | none => rfl
  | some expression => by_cases he : expression = "" <;> simp [he]

theorem spells_params (page : Page) {params : List (Text × Option Text)}
    (h : page.params request = .ok params) :
    Spells (params.filterMap fun param => Element.param? true param.1 param.2)
      ((echoed request page).flatMap fun param => paramPieces param.1 param.2) := by
  obtain ⟨start, hs, h⟩ := Outcome.bind_eq_ok.mp h
  obtain ⟨rows, hr, h⟩ := Outcome.bind_eq_ok.mp h
  obtain ⟨-, rfl⟩ := Number.write_eq_ok.mp hs
  obtain ⟨-, rfl⟩ := Number.write_eq_ok.mp hr
  have hparams : params.filterMap (fun param => Element.param? true param.1 param.2) =
      (echoed request page).filterMap fun param => Element.param? true param.1 param.2 := by
    rw [← Outcome.pure_eq_ok.mp h, echoed, List.filterMap_cons, param?_sortOf]
    rfl
  rw [hparams]
  apply Spells.filterMap
  intro param hp
  apply spells_param
  have hname : param.1 ∈ (echoed request page).map (·.1) := List.mem_map_of_mem hp
  exact (by decide : ∀ name ∈ (["sort", "output", "ie", "oe", "client", "q", "site", "start", "num",
    "ip", "access", "entqr"] : List Text), attrValue name.toList = name.toList) _ hname

/-- The piece of the start tag of the results. -/
def openingPiece (page : Page) : Piece where
  name := "RES"
  attributes :=
    [("SN", toString (page.offset + 1)), ("EN", toString (page.offset + page.hits.length))]
  text := "\n"

theorem spells_opening {text : Text} (h : page.opening = .ok text) :
    Spells [text] [page.openingPiece] := by
  obtain ⟨first, hf, h⟩ := Outcome.bind_eq_ok.mp h
  obtain ⟨last, hl, h⟩ := Outcome.bind_eq_ok.mp h
  obtain ⟨-, rfl⟩ := Number.write_eq_ok.mp hf
  obtain ⟨-, rfl⟩ := Number.write_eq_ok.mp hl
  rw [← Outcome.pure_eq_ok.mp h]
  apply Spells.single
  · have hfirst := attrValue_toString (page.offset + 1)
    have hlast := attrValue_toString (page.offset + page.hits.length)
    unfold openingPiece
    generalize toString (page.offset + 1) = first at *
    generalize toString (page.offset + page.hits.length : Int) = last at *
    simp [Piece.written, Piece.chunk, Piece.writtenAttributes, hfirst, hlast]
    rfl
  · exact Piece.sound_of_keys ["SN", "EN"] rfl (by decide) (by decide) (by decide) (by decide)

/-- The pieces of the number of hits found, and of the link to the next page. -/
def pagingPieces (page : Page) (link : Text) : List Piece :=
  [{ name := "M", text := toString page.found }, closingPiece "M",
    { name := "FI/", text := "\n" },
    { name := "NB" }, { name := "NU", text := link }, { name := "/NU" }, closingPiece "NB"]

theorem spells_paging {found line : Text} (hf : page.foundLine = .ok found)
    (hl : page.linkLine options request = .ok line) :
    ∃ link, page.nextLink options request = .ok link ∧
      Spells [found, "<FI/>\n", line] (page.pagingPieces link) := by
  obtain ⟨number, hn, hf⟩ := Outcome.bind_eq_ok.mp hf
  obtain ⟨-, rfl⟩ := Number.write_eq_ok.mp hn
  obtain ⟨link, hlink, hl⟩ := Outcome.bind_eq_ok.mp hl
  rw [← Outcome.pure_eq_ok.mp hf, ← Outcome.pure_eq_ok.mp hl]
  refine ⟨link, hlink, ?_, ?_⟩
  · have hfound := charData_toString page.found
    unfold pagingPieces closingPiece
    generalize toString page.found = number at *
    simp [Text.Escape.text, Piece.written, Piece.chunk, Piece.writtenAttributes,
      hfound]
    rfl
  · simp only [pagingPieces, closingPiece, List.forall_mem_cons]
    exact ⟨Piece.sound_plain (by decide) _, Piece.sound_plain (by decide) _,
      Piece.sound_plain (by decide) _, Piece.sound_plain (by decide) _,
      Piece.sound_plain (by decide) _, Piece.sound_plain (by decide) _,
      Piece.sound_plain (by decide) _, by simp⟩

def prologPieces : List Piece :=
  [{ name := "?xml"
     attributes := [("version", "1.0"), ("encoding", "UTF-8"), ("standalone", "no")]
     tail := "?"
     text := "\n" },
    { name := "GSP", attributes := [("VER", "3.2")], text := "\n" }]

theorem spells_prolog : Spells [prolog] prologPieces := by
  refine ⟨by decide, ?_⟩
  simp only [prologPieces, List.forall_mem_cons]
  refine ⟨?_, ?_, by simp⟩
  · exact Piece.sound_of_keys ["version", "encoding", "standalone"] rfl (by decide) (by decide)
      (by decide) (by decide)
  · exact Piece.sound_of_keys ["VER"] rfl (by decide) (by decide) (by decide) (by decide)

/-- The pieces before the first hit. -/
def headerPieces (request : EchoedRequest) (page : Page) (time : Int) (link : Text) :
    List Piece :=
  prologPieces ++ linePieces "TM" (some (toString time)) ++ linePieces "Q" request.query
    ++ (echoed request page).flatMap (fun param => paramPieces param.1 param.2)
    ++ page.openingPiece :: page.pagingPieces link

theorem spells_header (he : options.escapeEcho = true) {elapsed : Float} {header : List Text}
    (h : page.headerTexts options request elapsed = .ok header) :
    ∃ time link, Number.wholePart elapsed = .ok time ∧
      page.nextLink options request = .ok link ∧
      Spells header (headerPieces request page time link) := by
  obtain ⟨time, ht, h⟩ := Outcome.bind_eq_ok.mp h
  obtain ⟨params, hp, h⟩ := Outcome.bind_eq_ok.mp h
  obtain ⟨opening, ho, h⟩ := Outcome.bind_eq_ok.mp h
  obtain ⟨found, hf, h⟩ := Outcome.bind_eq_ok.mp h
  obtain ⟨line, hl, h⟩ := Outcome.bind_eq_ok.mp h
  obtain ⟨link, hlink, hpaging⟩ := spells_paging hf hl
  rw [← Outcome.pure_eq_ok.mp h, he]
  refine ⟨time, link, ht, hlink, ?_⟩
  have htime := spells_line "TM" (by decide) (some (toString time))
  have hquery := spells_line "Q" (by decide) request.query
  exact (((spells_prolog.append htime).append hquery).append (spells_params page hp)).append
    ((spells_opening ho).append hpaging)

/-- The further attributes of the hit at an index of its page. -/
def placed (options : PageOptions) (index : Nat) : List (Text × Text) :=
  (options.attributes.filter (·.index = index)).map fun attr => (attr.name, attr.value)

/-- The piece of the start tag of the hit at an index of its page. -/
def hitPiece (options : PageOptions) (offset : Int) (index : Nat) : Piece where
  name := "R"
  attributes := ("N", toString (offset + index + 1)) :: placed options index
  text := "\n"

theorem placedAttributes_toList (options : PageOptions) (index : Nat) :
    (placedAttributes options index).toList = Piece.writtenAttributes (placed options index) := by
  rw [placedAttributes, Text.toList_join, placed, Piece.writtenAttributes, List.flatMap_map,
    List.flatMap_map]
  congr 1
  funext attr
  simp [Text.Escape.attr]

theorem spells_hitOpening (hv : options.Valid) {offset : Int} {index : Nat} {text : Text}
    (h : hitOpening options offset index = .ok text) :
    Spells [text] [hitPiece options offset index] := by
  obtain ⟨rank, hr, h⟩ := Outcome.bind_eq_ok.mp h
  obtain ⟨-, rfl⟩ := Number.write_eq_ok.mp hr
  rw [← Outcome.pure_eq_ok.mp h]
  apply Spells.single
  · have hrank := attrValue_toString (offset + index + 1)
    have hplaced := placedAttributes_toList options index
    unfold hitPiece
    generalize toString (offset + index + 1) = rank at *
    unfold Piece.writtenAttributes at hplaced
    simp [Piece.written, Piece.chunk, Piece.writtenAttributes, hrank, hplaced]
    rfl
  · refine Piece.sound_of_keys ("N" :: (placed options index).map (·.1)) rfl (by decide) ?_
      (by decide) (by simp)
    intro key hk
    rcases List.mem_cons.mp hk with rfl | hk
    · decide
    · obtain ⟨pair, hpair, rfl⟩ := List.mem_map.mp hk
      obtain ⟨attr, ha, rfl⟩ := List.mem_map.mp hpair
      have hname := hv attr (List.mem_filter.mp ha).1
      exact Text.lacks_map_char.mpr (Settings.PlacedAttribute.not_mem_of_isName hname)

/-- The pieces of a hit. -/
def blockPieces (options : PageOptions) (snippets : Snippets) (identity : Text) (offset : Int)
    (d : Digest) (index : Nat) : List Piece :=
  hitPiece options offset index ::
    ((d.elements snippets identity).flatMap (elementPieces d) ++ [closingPiece "R"])

theorem spells_block (hv : options.Valid) {offset : Int} {index : Nat} {hit : Fields}
    {block : List Text} (h : blockTexts options snippets identity offset index hit = .ok block) :
    ∃ d, (Digest.ofFields options hit).outcome = .ok d ∧
      Spells block (blockPieces options snippets identity offset d index) := by
  obtain ⟨opening, ho, h⟩ := Outcome.bind_eq_ok.mp h
  obtain ⟨elements, he, h⟩ := Outcome.bind_eq_ok.mp h
  obtain ⟨d, hd, rfl⟩ := Outcome.map_eq_ok.mp he
  rw [← Outcome.pure_eq_ok.mp h]
  exact ⟨d, hd, (spells_hitOpening hv ho).append
    ((spells_elements d snippets identity).append (spells_closing "R" (by decide)))⟩

theorem spells_blocks (hv : options.Valid) {offset : Int} {index : Nat} {hits : List Fields}
    {bs : List (List Text)} (h : blocks options snippets identity offset index hits = .ok bs) :
    ∃ digests, hits.mapM (fun hit => (Digest.ofFields options hit).outcome) = .ok digests ∧
      Spells bs.flatten ((digests.zipIdx index).flatMap fun entry =>
        blockPieces options snippets identity offset entry.1 entry.2) := by
  induction hits generalizing index bs with
  | nil =>
    rw [← Except.ok.inj h]
    exact ⟨[], rfl, Spells.nil⟩
  | cons hit rest ih =>
    obtain ⟨block, hb, h⟩ := Outcome.bind_eq_ok.mp h
    obtain ⟨more, hm, h⟩ := Outcome.bind_eq_ok.mp h
    obtain ⟨d, hd, hblock⟩ := spells_block hv hb
    obtain ⟨digests, hdigests, hmore⟩ := ih hm
    rw [← Outcome.pure_eq_ok.mp h]
    refine ⟨d :: digests, ?_, ?_⟩
    · rw [List.mapM_cons, hd, hdigests]
      rfl
    · exact hblock.append hmore

/-- A page that can be written spells its header, its hits and the last two end tags. -/
theorem spells_texts (hv : options.Valid) (he : options.escapeEcho = true) {elapsed : Float}
    {ts : List Text} (h : page.texts options snippets request identity elapsed = .ok ts) :
    ∃ time link digests, Number.wholePart elapsed = .ok time ∧
      page.nextLink options request = .ok link ∧
      page.hits.mapM (fun hit => (Digest.ofFields options hit).outcome) = .ok digests ∧
      Spells ts (headerPieces request page time link
        ++ (digests.zipIdx.flatMap fun entry =>
            blockPieces options snippets identity page.offset entry.1 entry.2)
        ++ [closingPiece "RES", closingPiece "GSP"]) := by
  obtain ⟨header, hh, h⟩ := Outcome.bind_eq_ok.mp h
  obtain ⟨bs, hb, h⟩ := Outcome.bind_eq_ok.mp h
  obtain ⟨time, link, htime, hlink, hheader⟩ := spells_header he hh
  obtain ⟨digests, hdigests, hblocks⟩ := spells_blocks hv hb
  have hends := (spells_closing "RES" (by decide)).append (spells_closing "GSP" (by decide))
  rw [← Outcome.pure_eq_ok.mp h]
  exact ⟨time, link, digests, htime, hlink, hdigests, (hheader.append hblocks).append hends⟩

end Page

end SearchAppliance
