import SearchAppliance.Page.Session
import SearchAppliance.Result.Hit
import SearchAppliance.SortOrder

namespace SearchAppliance

open Settings (PageOptions)

namespace Page

def contentType : String := "text/xml; charset=UTF-8"

def outputMode : String := "xml_no_dtd"

def encoding : String := "UTF-8"

/-- The declaration and the start tag of the document. -/
def prolog : String :=
  "<?xml version=\"1.0\" encoding=\"UTF-8\" standalone=\"no\"?>\n<GSP VER=\"3.2\">\n"

/-- The sort expression of the request; an empty one counts as none. -/
def sortOf (request : EchoedRequest) : Option SortExpression :=
  (Element.filled? request.sort).map SortExpression.parse

/-- The link to the page that begins after the last hit of this one. -/
def nextLink (options : PageOptions) (request : EchoedRequest) (page : Page) :
    Except Failure Text := do
  let part (value : Option Text) : Text := value.getD ""
  let start ← Number.write page.nextStart
  return options.nextPagePath ++ "?q=" ++ part request.query ++ "&site=" ++ part request.site
    ++ "&lr=&ie=" ++ encoding ++ "&oe=" ++ encoding ++ "&output=" ++ outputMode
    ++ "&client=" ++ part request.client ++ "&access=" ++ part request.access
    ++ "&sort=" ++ part request.sort ++ "&start=" ++ start ++ "&sa=N"

/-- The parameters that a page repeats, in order. -/
def params (request : EchoedRequest) (page : Page) :
    Except Failure (List (Text × Option Text)) := do
  let start ← Number.write page.offset
  let rows ← Number.write page.rows
  return [
    ("sort", (sortOf request).map (·.raw)),
    ("output", some (outputMode : Text)),
    ("ie", some (encoding : Text)),
    ("oe", some (encoding : Text)),
    ("client", request.client),
    ("q", request.query),
    ("site", request.site),
    ("start", some (start : Text)),
    ("num", some (rows : Text)),
    ("ip", request.ip),
    ("access", request.access),
    ("entqr", request.entqr)]

/-- The start tag of the results, with the ranks of the first and the last one. -/
def opening (page : Page) : Except Failure Text := do
  let first ← Number.write (page.offset + 1)
  let last ← Number.write (page.offset + page.hits.length)
  return "<RES SN=\"" ++ first ++ "\" EN=\"" ++ last ++ "\">\n"

def foundLine (page : Page) : Except Failure Text := do
  let found ← Number.write page.found
  return "<M>" ++ found ++ "</M>\n"

def linkLine (options : PageOptions) (request : EchoedRequest) (page : Page) :
    Except Failure Text := do
  let link ← page.nextLink options request
  return "<NB><NU>" ++ Text.Escape.text link ++ "</NU></NB>\n"

/-- The further attributes of the hit at an index of its page. -/
def placedAttributes (options : PageOptions) (index : Nat) : Text :=
  Text.join ((options.attributes.filter (·.index = index)).map fun attr =>
    " " ++ attr.name ++ "=\"" ++ Text.Escape.attr attr.value ++ "\"")

/-- The start tag of the hit at an index of its page, with its rank among all hits. -/
def hitOpening (options : PageOptions) (offset : Int) (index : Nat) : Except Failure Text := do
  let rank ← Number.write (offset + index + 1)
  return "<R N=\"" ++ rank ++ "\"" ++ placedAttributes options index ++ ">\n"

/-- Writes one hit. All its elements are known before the first of them is written. -/
def writeHit (options : PageOptions) (snippets : Snippets) (identity : Text) (offset : Int)
    (index : Nat) (hit : Fields) : Writing Unit := do
  Writing.write (← Writing.ofExcept (hitOpening options offset index))
  let elements ← Writing.ofLogged (hit.elements options snippets identity)
  Writing.writeAll (elements.map Element.written?)
  Writing.write (Element.closing "R")

/-- Writes hits, the first one with the given index. -/
def writeHits (options : PageOptions) (snippets : Snippets) (identity : Text) (offset : Int) :
    Nat → List Fields → Writing Unit
  | _, [] => pure ()
  | index, hit :: rest => do
    writeHit options snippets identity offset index hit
    writeHits options snippets identity offset (index + 1) rest

/-- Writes everything before the first hit. -/
def writeHeader (options : PageOptions) (request : EchoedRequest) (page : Page)
    (watch : Stopwatch) : Writing Unit := do
  Writing.write prolog
  let elapsed ← Writing.timed watch.elapsed
  let time ← Writing.ofExcept (Number.wholePart elapsed)
  Writing.writeIfAny (Element.line? "TM" (some (toString time : String)))
  Writing.writeIfAny (Element.line? "Q" request.query)
  let params ← Writing.ofExcept (page.params request)
  Writing.writeAll (params.map fun (name, value) => Element.param? options.escapeEcho name value)
  Writing.write (← Writing.ofExcept page.opening)
  Writing.write (← Writing.ofExcept page.foundLine)
  Writing.write "<FI/>\n"
  Writing.write (← Writing.ofExcept (page.linkLine options request))

/-- Writes the whole document. -/
def writeBody (options : PageOptions) (snippets : Snippets) (request : EchoedRequest)
    (identity : Text) (page : Page) (watch : Stopwatch) : Writing Unit := do
  writeHeader options request page watch
  writeHits options snippets identity page.offset 0 page.hits
  Writing.write (Element.closing "RES")
  Writing.write (Element.closing "GSP")

/-- Writes the document and takes the time, also of an attempt that fails. Only a page that was
written entirely is reported. -/
def write (options : PageOptions) (snippets : Snippets) (request : EchoedRequest)
    (identity : Text) (page : Page) : Writing Unit := do
  let watch ← Writing.timed Stopwatch.start
  let (_, watch) ← (writeBody options snippets request identity page watch).andAlways
    (Writing.timed watch.stop)
  let elapsed ← Writing.timed watch.elapsed
  let clause := (sortOf request).bind (·.clause? Field.lastModified.name)
  Writing.report (.pageWritten page.offset page.hits.length page.found clause elapsed)

/-- The whole text, written onto a stream that does not close. -/
def document (options : PageOptions) (snippets : Snippets) (request : EchoedRequest)
    (identity : Text) (clock : Clock) (page : Page) : Logged Text :=
  let (outcome, session) :=
    (page.write options snippets request identity).run.run { clock := clock }
  ⟨session.events.toList, outcome.map fun _ => session.stream.content⟩

/-- The document as it is sent, which a text with surrogates cannot be. -/
def assemble (options : PageOptions) (snippets : Snippets) (request : EchoedRequest)
    (identity : Text) (clock : Clock) (page : Page) : Logged String :=
  let written := page.document options snippets request identity clock
  ⟨written.events, written.outcome.bind Text.encode⟩

end Page

end SearchAppliance
