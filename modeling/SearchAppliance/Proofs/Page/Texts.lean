import SearchAppliance.Page.Document
import SearchAppliance.Proofs.Outcome
import SearchAppliance.Proofs.Page.Session

namespace SearchAppliance

open Settings (PageOptions)

/-- The milliseconds from the next reading of a clock to the one that comes `n` readings later. -/
def Clock.span (clock : Clock) (n : Nat) : Float :=
  Stopwatch.milliseconds (clock.readings clock.taken) (clock.readings (clock.taken + n))

namespace Page

/-- The texts before the first hit. -/
def headerTexts (options : PageOptions) (request : EchoedRequest) (page : Page)
    (elapsed : Float) : Except Failure (List Text) := do
  let time ← Number.wholePart elapsed
  let params ← page.params request
  let opening ← page.opening
  let found ← page.foundLine
  let link ← page.linkLine options request
  return [(prolog : Text)] ++ (Element.line? "TM" (some (toString time : String))).toList
    ++ (Element.line? "Q" request.query).toList
    ++ params.filterMap (fun param => Element.param? options.escapeEcho param.1 param.2)
    ++ [opening, found, "<FI/>\n", link]

/-- The texts of one hit. -/
def blockTexts (options : PageOptions) (snippets : Snippets) (identity : Text) (offset : Int)
    (index : Nat) (hit : Fields) : Except Failure (List Text) := do
  let opening ← hitOpening options offset index
  let elements ← (hit.elements options snippets identity).outcome
  return opening :: elements.filterMap Element.written? ++ [Element.closing "R"]

/-- The texts of hits, one list for each, the first hit with the given index. -/
def blocks (options : PageOptions) (snippets : Snippets) (identity : Text) (offset : Int) :
    Nat → List Fields → Except Failure (List (List Text))
  | _, [] => .ok []
  | index, hit :: rest => do
    let block ← blockTexts options snippets identity offset index hit
    let more ← blocks options snippets identity offset (index + 1) rest
    return block :: more

/-- All texts of a page. -/
def texts (options : PageOptions) (snippets : Snippets) (request : EchoedRequest)
    (identity : Text) (page : Page) (elapsed : Float) : Except Failure (List Text) := do
  let header ← page.headerTexts options request elapsed
  let blocks ← blocks options snippets identity page.offset 0 page.hits
  return header ++ blocks.flatten ++ [Element.closing "RES", Element.closing "GSP"]

variable {options : PageOptions} {snippets : Snippets} {request : EchoedRequest}
  {identity : Text} {page : Page} {s : Session}

theorem writeHeader_ok (hs : s.Endless) (watch : Stopwatch) {header : List Text}
    (h : page.headerTexts options request (watch.elapsed s.clock).1 = .ok header) :
    writeHeader options request page watch s =
      (.ok (), (s.withClock (watch.elapsed s.clock).2).add header []) := by
  obtain ⟨time, ht, h⟩ := Outcome.bind_eq_ok.mp h
  obtain ⟨params, hp, h⟩ := Outcome.bind_eq_ok.mp h
  obtain ⟨opening, ho, h⟩ := Outcome.bind_eq_ok.mp h
  obtain ⟨found, hf, h⟩ := Outcome.bind_eq_ok.mp h
  obtain ⟨link, hl, h⟩ := Outcome.bind_eq_ok.mp h
  rw [← Outcome.pure_eq_ok.mp h]
  simp [writeHeader, hs, ht, hp, ho, hf, hl, List.filterMap_map]

theorem writeHeader_error (hs : s.Endless) (watch : Stopwatch) {cause : Failure}
    (h : page.headerTexts options request (watch.elapsed s.clock).1 = .error cause) :
    (writeHeader options request page watch s).1 = .error cause := by
  rcases Outcome.bind_eq_error.mp h with ht | ⟨time, ht, h⟩
  · simp [writeHeader, hs, ht]
  rcases Outcome.bind_eq_error.mp h with hp | ⟨params, hp, h⟩
  · simp [writeHeader, hs, ht, hp]
  rcases Outcome.bind_eq_error.mp h with ho | ⟨opening, ho, h⟩
  · simp [writeHeader, hs, ht, hp, ho]
  rcases Outcome.bind_eq_error.mp h with hf | ⟨found, hf, h⟩
  · simp [writeHeader, hs, ht, hp, ho, hf]
  rcases Outcome.bind_eq_error.mp h with hl | ⟨link, hl, h⟩
  · simp [writeHeader, hs, ht, hp, ho, hf, hl]
  · cases h

theorem writeHit_ok (hs : s.Endless) {offset : Int} {index : Nat} {hit : Fields}
    {block : List Text} (h : blockTexts options snippets identity offset index hit = .ok block) :
    writeHit options snippets identity offset index hit s =
      (.ok (), s.add block (hit.elements options snippets identity).events) := by
  obtain ⟨opening, ho, h⟩ := Outcome.bind_eq_ok.mp h
  obtain ⟨elements, he, h⟩ := Outcome.bind_eq_ok.mp h
  rw [← Outcome.pure_eq_ok.mp h]
  simp [writeHit, hs, ho, he, List.filterMap_map]

theorem writeHit_error (hs : s.Endless) {offset : Int} {index : Nat} {hit : Fields}
    {cause : Failure} (h : blockTexts options snippets identity offset index hit = .error cause) :
    (writeHit options snippets identity offset index hit s).1 = .error cause := by
  rcases Outcome.bind_eq_error.mp h with ho | ⟨opening, ho, h⟩
  · simp [writeHit, ho]
  rcases Outcome.bind_eq_error.mp h with he | ⟨elements, he, h⟩
  · simp [writeHit, hs, ho, he]
  · cases h

theorem writeHits_ok (hs : s.Endless) {offset : Int} {index : Nat} {hits : List Fields}
    {bs : List (List Text)} (h : blocks options snippets identity offset index hits = .ok bs) :
    writeHits options snippets identity offset index hits s =
      (.ok (), s.add bs.flatten
        (hits.flatMap fun hit => (hit.elements options snippets identity).events)) := by
  induction hits generalizing index s bs with
  | nil =>
    rw [← Except.ok.inj h]
    exact congrArg _ s.add_nil.symm
  | cons hit rest ih =>
    obtain ⟨block, hb, h⟩ := Outcome.bind_eq_ok.mp h
    obtain ⟨more, hm, h⟩ := Outcome.bind_eq_ok.mp h
    rw [← Outcome.pure_eq_ok.mp h]
    simp [writeHits, writeHit_ok hs hb, ih ((s.endless_add _ _).mpr hs) hm]

theorem writeHits_error (hs : s.Endless) {offset : Int} {index : Nat} {hits : List Fields}
    {cause : Failure} (h : blocks options snippets identity offset index hits = .error cause) :
    (writeHits options snippets identity offset index hits s).1 = .error cause := by
  induction hits generalizing index s with
  | nil => cases h
  | cons hit rest ih =>
    rcases Outcome.bind_eq_error.mp h with hb | ⟨block, hb, h⟩
    · exact Writing.bind_error (writeHit_error hs hb)
    rcases Outcome.bind_eq_error.mp h with hm | ⟨more, hm, h⟩
    · simp [writeHits, writeHit_ok hs hb, ih ((s.endless_add _ _).mpr hs) hm]
    · cases h

theorem writeBody_ok (hs : s.Endless) (watch : Stopwatch) {ts : List Text}
    (h : page.texts options snippets request identity (watch.elapsed s.clock).1 = .ok ts) :
    writeBody options snippets request identity page watch s =
      (.ok (), (s.withClock (watch.elapsed s.clock).2).add ts
        (page.hits.flatMap fun hit => (hit.elements options snippets identity).events)) := by
  obtain ⟨header, hh, h⟩ := Outcome.bind_eq_ok.mp h
  obtain ⟨bs, hb, h⟩ := Outcome.bind_eq_ok.mp h
  rw [← Outcome.pure_eq_ok.mp h]
  have hs' : ((s.withClock (watch.elapsed s.clock).2).add header []).Endless := hs
  simp [writeBody, writeHeader_ok hs watch hh, writeHits_ok hs' hb, hs]

theorem writeBody_error (hs : s.Endless) (watch : Stopwatch) {cause : Failure}
    (h : page.texts options snippets request identity (watch.elapsed s.clock).1 = .error cause) :
    (writeBody options snippets request identity page watch s).1 = .error cause := by
  rcases Outcome.bind_eq_error.mp h with hh | ⟨header, hh, h⟩
  · exact Writing.bind_error (writeHeader_error hs watch hh)
  rcases Outcome.bind_eq_error.mp h with hb | ⟨bs, hb, h⟩
  · rw [writeBody, Writing.bind_run, writeHeader_ok hs watch hh]
    have hs' : ((s.withClock (watch.elapsed s.clock).2).add header []).Endless := hs
    exact Writing.bind_error (writeHits_error hs' hb)
  · cases h

/-- The report of a page that was written entirely. -/
def writtenEvent (request : EchoedRequest) (page : Page) (clock : Clock) : Event :=
  .pageWritten page.offset page.hits.length page.found
    ((sortOf request).bind (·.clause? Field.lastModified.name)) (clock.span 2)

/-- The same report by the readings of the clock at its beginning and its end. -/
def reportBetween (request : EchoedRequest) (page : Page) (start finish : Float) : Event :=
  .pageWritten page.offset page.hits.length page.found
    ((sortOf request).bind (·.clause? Field.lastModified.name))
    (Stopwatch.milliseconds start finish)

theorem write_of_body_ok (s : Session) {t : Session}
    (h : writeBody options snippets request identity page (Stopwatch.start s.clock).1
      (s.withClock (Stopwatch.start s.clock).2) = (.ok (), t)) :
    page.write options snippets request identity s =
      (.ok (), (t.withClock t.clock.read.2).add []
        [reportBetween request page s.clock.read.1 t.clock.read.1]) := by
  simp only [write, Writing.bind_run, Writing.timed_run]
  rw [Writing.andAlways, h]
  simp [Stopwatch.elapsed, Stopwatch.stop, Stopwatch.start, reportBetween]

/-- The time is taken also when the body fails, but nothing is reported then. -/
theorem write_of_body_error (s : Session) {t : Session} {cause : Failure}
    (h : writeBody options snippets request identity page (Stopwatch.start s.clock).1
      (s.withClock (Stopwatch.start s.clock).2) = (.error cause, t)) :
    page.write options snippets request identity s =
      (.error cause, t.withClock t.clock.read.2) := by
  simp only [write, Writing.bind_run, Writing.timed_run]
  rw [Writing.andAlways, h]
  rfl

/-- A page whose texts can all be given is written: just these texts, three readings of the clock, the
reports of its hits and its own. -/
theorem write_ok (hs : s.Endless) {ts : List Text}
    (h : page.texts options snippets request identity (s.clock.span 1) = .ok ts) :
    page.write options snippets request identity s =
      (.ok (), (s.withClock { s.clock with taken := s.clock.taken + 3 }).add ts
        (page.hits.flatMap (fun hit => (hit.elements options snippets identity).events)
          ++ [page.writtenEvent request s.clock])) := by
  let started := Stopwatch.start s.clock
  have hb := writeBody_ok (s := s.withClock started.2) hs started.1 h
  rw [write_of_body_ok s hb]
  simp [Stopwatch.elapsed, Clock.read, writtenEvent, reportBetween, started, Stopwatch.start,
    Clock.span, Nat.add_assoc]

/-- A page of which some text cannot be given is not written, for the same reason. -/
theorem write_error (hs : s.Endless) {cause : Failure}
    (h : page.texts options snippets request identity (s.clock.span 1) = .error cause) :
    (page.write options snippets request identity s).1 = .error cause := by
  let started := Stopwatch.start s.clock
  have hb := writeBody_error (s := s.withClock started.2) hs started.1 h
  rcases hw : writeBody options snippets request identity page started.1 (s.withClock started.2)
    with ⟨outcome, t⟩
  rw [hw] at hb
  obtain rfl : outcome = .error cause := hb
  rw [write_of_body_error s hw]

/-- The texts that a writing which succeeded has left on a stream of its own. -/
theorem texts_of_write {clock : Clock} {t : Session}
    (h : page.write options snippets request identity { clock := clock } = (.ok (), t)) :
    page.texts options snippets request identity (clock.span 1) = .ok t.stream.texts.toList := by
  have hs : Session.Endless { clock := clock } := rfl
  cases hts : page.texts options snippets request identity (clock.span 1) with
  | error cause =>
    have he := write_error hs hts
    rw [h] at he
    cases he
  | ok ts =>
    rw [write_ok hs hts] at h
    cases h
    simp

/-- A document is its texts one after another, or fails as they do. -/
theorem document_outcome (clock : Clock) :
    (page.document options snippets request identity clock).outcome =
      (page.texts options snippets request identity (clock.span 1)).map Text.join := by
  have hs : Session.Endless { clock := clock } := rfl
  change ((page.write options snippets request identity { clock := clock }).1.map fun _ =>
    (page.write options snippets request identity { clock := clock }).2.stream.content) = _
  cases hts : page.texts options snippets request identity (clock.span 1) with
  | error cause =>
    rw [write_error hs hts]
    rfl
  | ok ts =>
    rw [write_ok hs hts]
    simp [Except.map]

theorem assemble_outcome (clock : Clock) :
    (page.assemble options snippets request identity clock).outcome =
      ((page.texts options snippets request identity (clock.span 1)).map Text.join).bind
        Text.encode := by
  rw [← document_outcome]
  rfl

/-- The bytes that are sent are those of the document. -/
theorem document_of_assemble {clock : Clock} {content : String}
    (h : (page.assemble options snippets request identity clock).outcome = .ok content) :
    (page.document options snippets request identity clock).outcome = .ok (content : Text) := by
  obtain ⟨text, ht, hs⟩ := Outcome.bind_eq_ok.mp h
  rwa [Text.encode_eq_ok.mp hs] at ht

end Page

end SearchAppliance
