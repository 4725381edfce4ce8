import Mathlib.Data.List.Basic
import SearchAppliance.Proofs.Page.Pieces

namespace SearchAppliance

open Settings (PageOptions)

/-- What a document says of one result. -/
structure ResultReading where
  rank : Int
  attributes : List (Text × Text)
  elements : List (Text × Text)
  size : Text
  id : Text
  deriving DecidableEq, Repr

/-- What a document says. -/
structure Reading where
  time : Int
  query : Option Text
  /-- For each echoed parameter its name and both forms of its value. -/
  params : List (Text × Text × Text)
  first : Int
  last : Int
  found : Int
  link : Text
  results : List ResultReading
  deriving DecidableEq, Repr

namespace Piece

/-- The text behind a tag with the given name. -/
def textOf? (name : Text) (p : Piece) : Option Text :=
  if p.name = name then some p.text else none

def paramOf? (p : Piece) : Option (Text × Text × Text) :=
  match p.attributes with
  | [(_, name), (_, value), (_, original)] =>
    if p.name = "PARAM" then some (name, value, original) else none
  | _ => none

/-- The first two attributes of a tag with the given name. -/
def pairOf? (name : Text) (p : Piece) : Option (Text × Text) :=
  match p.attributes with
  | (_, first) :: (_, second) :: _ => if p.name = name then some (first, second) else none
  | _ => none

/-- The name and the text of an element; end tags and tags without text are none. -/
def elementOf? (p : Piece) : Option (Text × Text) :=
  if p.name.toList.head? = some (.char '/') ∨ p.text = "" then none else some (p.name, p.text)

end Piece

namespace Reading

/-- The pieces before the first result, and for each result its start tag and what follows it. -/
def sections : List Piece → List Piece × List (Piece × List Piece)
  | [] => ([], [])
  | p :: rest =>
    let (before, results) := sections rest
    if p.name = "R" then ([], (p, before) :: results) else (p :: before, results)

def number? (text : Text) : Option Int := Number.ofText? text.toList

/-- Reads a result from its start tag and the pieces after it. -/
def result? (result : Piece × List Piece) : Option ResultReading := do
  let (_, rank) ← result.1.attributes.head?
  let rank ← number? rank
  let (size, id) ← (result.2.filterMap (Piece.pairOf? "C")).head?
  return {
    rank := rank
    attributes := result.1.attributes.tail
    elements := result.2.filterMap Piece.elementOf?
    size := size
    id := id }

def ofPieces? (ps : List Piece) : Option Reading := do
  let (header, results) := sections ps
  let time ← (header.filterMap (Piece.textOf? "TM")).head?.bind number?
  let (first, last) ← (header.filterMap (Piece.pairOf? "RES")).head?
  let first ← number? first
  let last ← number? last
  let found ← (header.filterMap (Piece.textOf? "M")).head?.bind number?
  let link ← (header.filterMap (Piece.textOf? "NU")).head?
  let results ← results.mapM result?
  return {
    time := time
    query := (header.filterMap (Piece.textOf? "Q")).head?
    params := header.filterMap Piece.paramOf?
    first := first
    last := last
    found := found
    link := link
    results := results }

/-- Reads a document: it is cut at its markup, and the entities are undone once. -/
def decode (document : Text) : Option Reading := ofPieces? (Piece.readAll document.toList)

end Reading

theorem linePieces_textOf? (name other : Text) (value : Option Text)
    (h : "/" ++ name ≠ other) :
    (linePieces name value).filterMap (Piece.textOf? other) =
      if name = other then (Element.filled? value).toList else [] := by
  unfold linePieces
  cases Element.filled? value with
  | none => simp
  | some v =>
    by_cases hn : name = other
    · subst hn
      simp [Piece.textOf?, h]
    · simp [Piece.textOf?, h, hn]

theorem linePieces_pairOf? (name other : Text) (value : Option Text) :
    (linePieces name value).filterMap (Piece.pairOf? other) = [] := by
  unfold linePieces
  cases Element.filled? value <;> rfl

theorem linePieces_paramOf? (name : Text) (value : Option Text) :
    (linePieces name value).filterMap Piece.paramOf? = [] := by
  unfold linePieces
  cases Element.filled? value with
  | none => rfl
  | some v => simp [Piece.paramOf?]

theorem linePieces_elementOf? {name : Text} (h : name.toList.head? ≠ some (.char '/'))
    (value : Option Text) :
    (linePieces name value).filterMap Piece.elementOf? =
      ((Element.filled? value).map (name, ·)).toList := by
  unfold linePieces
  cases hv : Element.filled? value with
  | none => rfl
  | some v =>
    have hne : v ≠ "" := by
      have hfilled := (Option.filter_eq_some_iff.mp hv).2
      simpa using hfilled
    simp [Piece.elementOf?, h, hne]

theorem paramPieces_paramOf? (name : Text) (value : Option Text) :
    (paramPieces name value).filterMap Piece.paramOf? =
      ((Element.filled? value).map fun v => (name, v, v)).toList := by
  unfold paramPieces
  cases Element.filled? value <;> rfl

theorem paramPieces_name {p : Piece} {params : List (Text × Option Text)}
    (h : p ∈ params.flatMap fun param => paramPieces param.1 param.2) : p.name = "PARAM" := by
  obtain ⟨param, -, h⟩ := List.mem_flatMap.mp h
  obtain ⟨v, -, rfl⟩ := List.mem_map.mp h
  rfl

theorem params_textOf? {name : Text} (h : name ≠ "PARAM")
    (params : List (Text × Option Text)) :
    (params.flatMap fun param => paramPieces param.1 param.2).filterMap (Piece.textOf? name) =
      [] := by
  rw [List.filterMap_eq_nil_iff]
  intro p hp
  rw [Piece.textOf?, paramPieces_name hp, if_neg h.symm]

theorem params_paramOf? (params : List (Text × Option Text)) :
    (params.flatMap fun param => paramPieces param.1 param.2).filterMap Piece.paramOf? =
      params.filterMap fun param => (Element.filled? param.2).map fun v => (param.1, v, v) := by
  rw [List.filterMap_flatMap, List.filterMap_eq_flatMap_toList]
  simp only [paramPieces_paramOf?]

theorem params_pairOf? (params : List (Text × Option Text)) :
    (params.flatMap fun param => paramPieces param.1 param.2).filterMap (Piece.pairOf? "RES") =
      [] := by
  rw [List.filterMap_eq_nil_iff]
  intro p hp
  have hname := paramPieces_name hp
  unfold Piece.pairOf?
  split
  · rw [hname, if_neg (by decide)]
  · rfl

/-- The name and the text of an element that is written. -/
def Element.named? : Element → Option (Text × Text)
  | .text name value => (filled? value).map (name, ·)
  | .markup _ => none

theorem elementPieces_elementOf? {d : Digest} {snippets : Snippets} {identity : Text}
    {element : Element} (h : element ∈ d.elements snippets identity) :
    (elementPieces d element).filterMap Piece.elementOf? = element.named?.toList := by
  rcases Digest.mem_elements h with ⟨tag, value, rfl⟩ | rfl
  · exact linePieces_elementOf? (by cases tag <;> decide) value
  · simp [elementPieces, featurePieces, Piece.elementOf?, Element.named?]

theorem elements_elementOf? (d : Digest) (snippets : Snippets) (identity : Text) :
    ((d.elements snippets identity).flatMap (elementPieces d)).filterMap Piece.elementOf? =
      (d.elements snippets identity).filterMap Element.named? := by
  rw [List.filterMap_flatMap, List.filterMap_eq_flatMap_toList, List.flatMap_def, List.flatMap_def]
  congr 1
  exact List.map_congr_left fun element he => elementPieces_elementOf? he

theorem elements_pairOf? (d : Digest) (snippets : Snippets) (identity : Text) :
    ((d.elements snippets identity).flatMap (elementPieces d)).filterMap (Piece.pairOf? "C") =
      [((kilobyteText d.size : Text), d.documentId.getD "")] := by
  have hline (name : Text) (value : Option Text) :
      (elementPieces d (.text name value)).filterMap (Piece.pairOf? "C") = [] :=
    linePieces_pairOf? name "C" value
  have htags : (d.tags.map fun entry => Element.text entry.1.name (some entry.2)).flatMap
      (fun element => (elementPieces d element).filterMap (Piece.pairOf? "C")) = [] := by
    rw [List.flatMap_map, List.flatMap_eq_nil_iff]
    intro entry _
    exact hline _ _
  rw [List.filterMap_flatMap, Digest.elements, List.flatMap_append, htags]
  simp only [List.flatMap_cons, List.flatMap_nil, hline]
  rfl

theorem Reading.sections_append {ps : List Piece} (h : ∀ p ∈ ps, p.name ≠ "R")
    (rest : List Piece) :
    sections (ps ++ rest) = (ps ++ (sections rest).1, (sections rest).2) := by
  induction ps with
  | nil => rfl
  | cons p ps ih =>
    rw [List.cons_append, sections, ih fun q hq => h q (List.mem_cons_of_mem p hq)]
    simp only [if_neg (h p List.mem_cons_self), List.cons_append]

namespace Page

/-- What the document of a page says of one hit. -/
def resultReading (options : PageOptions) (snippets : Snippets) (identity : Text) (offset : Int)
    (d : Digest) (index : Nat) : ResultReading where
  rank := offset + index + 1
  attributes := placed options index
  elements := (d.elements snippets identity).filterMap Element.named?
  size := kilobyteText d.size
  id := d.documentId.getD ""

theorem result?_block (options : PageOptions) (snippets : Snippets) (identity : Text)
    (offset : Int) (d : Digest) (index : Nat) {ends : List Piece}
    (he : ∀ p ∈ ends, ∃ name, p = closingPiece name) :
    Reading.result? (hitPiece options offset index,
      (d.elements snippets identity).flatMap (elementPieces d) ++ closingPiece "R" :: ends) =
      some (resultReading options snippets identity offset d index) := by
  have hall : ∀ p ∈ closingPiece "R" :: ends, p.elementOf? = none ∧ p.pairOf? "C" = none := by
    intro p hp
    obtain ⟨name, rfl⟩ := (List.mem_cons.mp hp).elim (fun h => ⟨"R", h⟩) (he p)
    exact ⟨by simp [Piece.elementOf?, closingPiece], rfl⟩
  have helements := List.filterMap_eq_nil_iff.mpr fun p hp => (hall p hp).1
  have hpairs := List.filterMap_eq_nil_iff.mpr fun p hp => (hall p hp).2
  rw [Reading.result?]
  simp only [List.filterMap_append, elements_elementOf?, elements_pairOf?, helements, hpairs,
    hitPiece, List.head?_cons, Option.bind_eq_bind, Option.bind_some, Reading.number?,
    Number.ofText?_toString, List.append_nil, List.tail_cons]
  rfl

theorem elementPieces_name {d : Digest} {snippets : Snippets} {identity : Text} {p : Piece}
    (h : p ∈ (d.elements snippets identity).flatMap (elementPieces d)) : p.name ≠ "R" := by
  obtain ⟨element, he, hp⟩ := List.mem_flatMap.mp h
  rcases Digest.mem_elements he with ⟨tag, value, rfl⟩ | rfl
  · obtain ⟨v, -, hp⟩ := List.mem_flatMap.mp hp
    simp only [List.mem_cons, List.not_mem_nil, or_false] at hp
    have htag : (tag.name : Text) ≠ "R" ∧ "/" ++ (tag.name : Text) ≠ "R" := by
      cases tag <;> decide
    rcases hp with rfl | rfl
    · exact htag.1
    · exact htag.2
  · simp only [elementPieces, featurePieces, List.mem_cons, List.not_mem_nil, or_false] at hp
    rcases hp with rfl | rfl | rfl | rfl <;> simp

/-- The blocks of the hits are found again, whatever end tags come after them. -/
theorem sections_blocks (options : PageOptions) (snippets : Snippets) (identity : Text)
    (offset : Int) (digests : List Digest) (index : Nat) {ends : List Piece}
    (he : ∀ p ∈ ends, ∃ name, p = closingPiece name) (hr : ∀ p ∈ ends, p.name ≠ "R") :
    let found := Reading.sections ((digests.zipIdx index).flatMap (fun entry =>
      blockPieces options snippets identity offset entry.1 entry.2) ++ ends)
    (∀ p ∈ found.1, p ∈ ends) ∧
      found.2.mapM Reading.result? = some ((digests.zipIdx index).map fun entry =>
        resultReading options snippets identity offset entry.1 entry.2) := by
  induction digests generalizing index with
  | nil =>
    have hends := Reading.sections_append hr []
    rw [List.append_nil] at hends
    rw [List.zipIdx_nil, List.flatMap_nil, List.nil_append, hends]
    exact ⟨by simp [Reading.sections], rfl⟩
  | cons d rest ih =>
    obtain ⟨hbefore, hresults⟩ := ih (index + 1)
    rw [List.zipIdx_cons, List.flatMap_cons, blockPieces, List.append_assoc, List.cons_append,
      Reading.sections]
    have hblock : ∀ p ∈ (d.elements snippets identity).flatMap (elementPieces d)
        ++ [closingPiece "R"], p.name ≠ "R" := by
      intro p hp
      rcases List.mem_append.mp hp with hp | hp
      · exact elementPieces_name hp
      · rw [List.mem_singleton.mp hp]
        decide
    have hresult := result?_block options snippets identity offset d index
      fun p hp => he p (hbefore p hp)
    have hname : (hitPiece options offset index).name = "R" := rfl
    rw [Reading.sections_append hblock]
    refine ⟨by simp [hname], ?_⟩
    simp only [hname, if_true, List.append_assoc, List.singleton_append, List.mapM_cons]
    rw [hresult, hresults]
    rfl

theorem closing_ne (name : Text) {other : Text} (h : other.toList.head? ≠ some (.char '/')) :
    "/" ++ name ≠ other := by
  rintro rfl
  simp at h

theorem ends_textOf? {ends : List Piece} (he : ∀ p ∈ ends, ∃ name, p = closingPiece name)
    {name : Text} (h : name.toList.head? ≠ some (.char '/')) :
    ends.filterMap (Piece.textOf? name) = [] := by
  rw [List.filterMap_eq_nil_iff]
  intro p hp
  obtain ⟨other, rfl⟩ := he p hp
  rw [Piece.textOf?, closingPiece, if_neg (closing_ne other h)]

section Header

variable (request : EchoedRequest) (page : Page) (time : Int) (link : Text) {ends : List Piece}
  (he : ∀ p ∈ ends, ∃ name, p = closingPiece name)

include he

theorem header_textOf? {name : Text} (hs : name.toList.head? ≠ some (.char '/')) (hp : name ≠ "PARAM") :
    (headerPieces request page time link ++ ends).filterMap (Piece.textOf? name) =
      prologPieces.filterMap (Piece.textOf? name)
        ++ (if "TM" = name then [(toString time : Text)] else [])
        ++ (if "Q" = name then (Element.filled? request.query).toList else [])
        ++ (page.openingPiece :: page.pagingPieces link).filterMap (Piece.textOf? name) := by
  have htime : Element.filled? (some (toString time : Text)) = some (toString time : Text) := by
    rw [Element.filled?, Option.filter_some_pos]
    simpa using Number.toString_ne_empty time
  rw [headerPieces]
  simp only [List.filterMap_append, params_textOf? hp, ends_textOf? he hs, List.append_nil,
    linePieces_textOf? _ _ _ (closing_ne _ hs), htime, Option.toList_some]

theorem header_texts :
    let ps := headerPieces request page time link ++ ends
    ps.filterMap (Piece.textOf? "TM") = [(toString time : Text)] ∧
      ps.filterMap (Piece.textOf? "Q") = (Element.filled? request.query).toList ∧
      ps.filterMap (Piece.textOf? "M") = [(toString page.found : Text)] ∧
      ps.filterMap (Piece.textOf? "NU") = [link] := by
  intro ps
  have hcut (name : Text) (hs : name.toList.head? ≠ some (.char '/')) (hp : name ≠ "PARAM") :=
    header_textOf? request page time link he hs hp
  refine ⟨?_, ?_, ?_, ?_⟩
  · rw [hcut "TM" (by decide) (by decide)]
    rfl
  · rw [hcut "Q" (by decide) (by decide)]
    exact List.append_nil _
  · rw [hcut "M" (by decide) (by decide)]
    rfl
  · rw [hcut "NU" (by decide) (by decide)]
    rfl

theorem header_bounds :
    (headerPieces request page time link ++ ends).filterMap (Piece.pairOf? "RES") =
      [((toString (page.offset + 1) : Text), (toString (page.offset + page.hits.length) : Text))] := by
  have hends : ends.filterMap (Piece.pairOf? "RES") = [] := by
    rw [List.filterMap_eq_nil_iff]
    intro p hp
    obtain ⟨name, rfl⟩ := he p hp
    rfl
  rw [headerPieces]
  simp only [List.filterMap_append, linePieces_pairOf?, params_pairOf?, hends, List.append_nil]
  rfl

theorem header_params :
    (headerPieces request page time link ++ ends).filterMap Piece.paramOf? =
      (echoed request page).filterMap fun param =>
        (Element.filled? param.2).map fun v => (param.1, v, v) := by
  have hends : ends.filterMap Piece.paramOf? = [] := by
    rw [List.filterMap_eq_nil_iff]
    intro p hp
    obtain ⟨name, rfl⟩ := he p hp
    simp [Piece.paramOf?, closingPiece]
  rw [headerPieces]
  simp only [List.filterMap_append, linePieces_paramOf?, params_paramOf?, hends, List.append_nil]
  exact List.append_nil _

end Header

theorem header_name {request : EchoedRequest} {page : Page} {time : Int} {link : Text} {p : Piece}
    (h : p ∈ headerPieces request page time link) : p.name ≠ "R" := by
  have hline (name : Text) (value : Option Text) (hn : name ≠ "R") (hc : "/" ++ name ≠ "R")
      (hp : p ∈ linePieces name value) : p.name ≠ "R" := by
    obtain ⟨v, -, hp⟩ := List.mem_flatMap.mp hp
    simp only [List.mem_cons, List.not_mem_nil, or_false] at hp
    rcases hp with rfl | rfl
    · exact hn
    · exact hc
  rw [headerPieces] at h
  simp only [List.mem_append] at h
  rcases h with (((h | h) | h) | h) | h
  · simp only [prologPieces, List.mem_cons, List.not_mem_nil, or_false] at h
    rcases h with rfl | rfl <;> simp
  · exact hline "TM" _ (by decide) (by decide) h
  · exact hline "Q" _ (by decide) (by decide) h
  · rw [paramPieces_name h]
    decide
  · have hnames : (page.openingPiece :: page.pagingPieces link).map (·.name) =
        (["RES", "M", "/M", "FI/", "NB", "NU", "/NU", "/NB"] : List Text) := rfl
    have hname := List.mem_map_of_mem (f := (·.name)) h
    rw [hnames] at hname
    exact (by decide : ∀ name ∈ (["RES", "M", "/M", "FI/", "NB", "NU", "/NU", "/NB"] : List Text),
      name ≠ "R") _ hname

variable {options : PageOptions} {snippets : Snippets} {request : EchoedRequest}
  {identity : Text} {page : Page}

/-- Reading a document gives what was written: the numbers, the query, the parameters with both
forms of their values, the link, and for each hit its rank, its attributes, its elements and its
features. -/
theorem decode_document (hv : options.Valid) (he : options.escapeEcho = true) {clock : Clock}
    {content : Text}
    (h : (page.document options snippets request identity clock).outcome = .ok content) :
    ∃ time link digests,
      Number.wholePart (clock.span 1) = .ok time ∧
      page.nextLink options request = .ok link ∧
      page.hits.mapM (fun hit => (Digest.ofFields options hit).outcome) = .ok digests ∧
      Reading.decode content = some {
        time := time
        query := Element.filled? request.query
        params := (echoed request page).filterMap fun param =>
          (Element.filled? param.2).map fun v => (param.1, v, v)
        first := page.offset + 1
        last := page.offset + page.hits.length
        found := page.found
        link := link
        results := digests.zipIdx.map fun entry =>
          resultReading options snippets identity page.offset entry.1 entry.2 } := by
  rw [document_outcome] at h
  obtain ⟨ts, hts, rfl⟩ := Outcome.map_eq_ok.mp h
  obtain ⟨time, link, digests, htime, hlink, hdigests, hspells⟩ := spells_texts hv he hts
  refine ⟨time, link, digests, htime, hlink, hdigests, ?_⟩
  have hclosing : ∀ p ∈ [closingPiece "RES", closingPiece "GSP"],
      ∃ name, p = closingPiece name := by
    intro p hp
    simp only [List.mem_cons, List.not_mem_nil, or_false] at hp
    rcases hp with rfl | rfl
    · exact ⟨_, rfl⟩
    · exact ⟨_, rfl⟩
  obtain ⟨hbefore, hresults⟩ := sections_blocks options snippets identity page.offset digests 0
    hclosing (by decide)
  have hends := fun p hp => hclosing p (hbefore p hp)
  obtain ⟨htm, hq, hm, hnu⟩ := header_texts request page time link hends
  rw [Reading.decode, hspells.readAll, Reading.ofPieces?, List.append_assoc,
    Reading.sections_append fun p hp => header_name hp]
  simp only [htm, hq, hm, hnu, header_bounds request page time link hends,
    header_params request page time link hends, hresults, List.head?_cons, Option.bind_some,
    Reading.number?, Number.ofText?_toString, Option.bind_eq_bind, Option.head?_toList]
  rfl

/-- A page with one hit, whose texts look like markup. -/
def lookalikes : Page where
  offset := 10
  rows := 2
  found := 11
  hits := [[("id", ["a&\"b"]), ("title", ["&amp;lt; </R>"]), ("size_i", ["2048"])]]

/-- The link of that page when the query looks like markup, too. -/
def lookalikesLink : Text :=
  "/search?q=\"tea\" & <R>&site=&lr=&ie=UTF-8&oe=UTF-8&output=xml_no_dtd" ++
    "&client=&access=&sort=&start=11&sa=N"

theorem decode_lookalikes :
    let options : PageOptions := { escapeEcho := true }
    let request : EchoedRequest := { query := some "\"tea\" & <R>" }
    let clock := Clock.ofList [0.0, 0.5]
    options.Valid ∧ options.escapeEcho = true ∧
      ∃ content, (lookalikes.document options [] request "node" clock).outcome = .ok content ∧
        Reading.decode content = some {
          time := 500
          query := some "\"tea\" & <R>"
          params := [("output", "xml_no_dtd", "xml_no_dtd"), ("ie", "UTF-8", "UTF-8"),
            ("oe", "UTF-8", "UTF-8"), ("q", "\"tea\" & <R>", "\"tea\" & <R>"),
            ("start", "10", "10"), ("num", "2", "2")]
          first := 11
          last := 11
          found := 11
          link := lookalikesLink
          results := [{
            rank := 11
            attributes := []
            elements := [("T", "&amp;lt; </R>"), ("ENT_SOURCE", "node")]
            size := "2k"
            id := "a&\"b" }] } := by
  intro options request clock
  have hv : options.Valid := by decide
  have hok : (lookalikes.document options [] request "node" clock).outcome.isOk = true := by
    rw [document_outcome]
    decide +kernel
  obtain ⟨content, h⟩ := Outcome.isOk_iff.mp hok
  obtain ⟨time, link, digests, htime, hlink, hdigests, hdecode⟩ := decode_document hv rfl h
  refine ⟨hv, rfl, content, h, ?_⟩
  have hnumber : Number.wholePart ((Clock.ofList [0.0, 0.5]).span 1) = .ok 500 := by
    decide +kernel
  have htext : nextLink { escapeEcho := true } { query := some "\"tea\" & <R>" } lookalikes =
      .ok lookalikesLink := rfl
  have hdigest : lookalikes.hits.mapM (fun hit =>
      (Digest.ofFields { escapeEcho := true } hit).outcome) =
      .ok [{
        documentId := some "a&\"b"
        title := some "&amp;lt; </R>"
        size := 2048
        texts := ["&amp;lt; </R>"]
        tags := [(.title, "&amp;lt; </R>")] }] := rfl
  rw [hdecode, ← Except.ok.inj (hnumber.symm.trans htime), ← Except.ok.inj (htext.symm.trans hlink),
    ← Except.ok.inj (hdigest.symm.trans hdigests)]
  decide

end Page

end SearchAppliance
