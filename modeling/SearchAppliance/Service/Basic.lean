import SearchAppliance.Index.Search
import SearchAppliance.Page.Document
import SearchAppliance.Settings.Options

namespace SearchAppliance.Service

open Settings (Checked PagingLimits)

inductive Content where
  | json (value : Json)
  | faults (faults : List Settings.Fault)
  | text (content : String)

structure Response where
  status : Nat
  contentType : String
  content : Content
  events : List Event := []

namespace Response

/-- The answer to a failure that the service does not explain. -/
def internalError : Response :=
  ⟨500, "text/plain; charset=utf-8", .text "Internal Server Error", []⟩

/-- An answer with a value, if that can be sent. -/
def json (status : Nat) (value : Json) : Response :=
  if value.canBeSent then ⟨status, "application/json", .json value, []⟩ else internalError

/-- A refusal with its reason. -/
def detail (status : Nat) (reason : String) : Response :=
  json status (.obj [("detail", .str reason)])

/-- Lists what is wrong with a request. Each fault shows the part of the request that has it, so that
part has to be one that can be sent. -/
def invalid (faults : List Settings.Fault) : Response :=
  if faults.all (·.input.canBeSent) then ⟨422, "application/json", .faults faults, []⟩
  else internalError

end Response

namespace DocumentBody

/-- The values of a field: one text, or a list of texts. What is neither has the faults of both. -/
def values (v : Json) : Checked (List Text) :=
  match v with
  | .str s => .ok [s]
  | _ =>
    match Settings.listOf Settings.text v with
    | .ok values => .ok values
    | .bad faults =>
      .bad (⟨.textExpected, [.key "str"], v⟩ :: Settings.Fault.within (.key "list[str]") faults)

/-- Named fields, each with its values. -/
def members : List (Text × Json) → Checked Fields
  | [] => .ok []
  | (name, v) :: rest =>
    (((values v).under (.key name.lossy)).map fun values rest => (name, values) :: rest)
      |>.and (members rest)

/-- The fields of a document, at least one. -/
def fields (v : Json) : Checked Fields :=
  match v with
  | .obj [] => .fail .tooFew v
  | .obj pairs => members pairs
  | _ => .fail .objectExpected v

/-- The document in a body that was read. -/
def document (body : Json) : Checked Fields :=
  let checked : Checked Fields :=
    match body with
    | .null => .fail .missing body
    | .obj pairs => Settings.required fields "fields" pairs
    | _ => .fail .bodyExpected body
  checked.under (.key "body")

end DocumentBody

/-- What searches are answered from: an index of the service's own, or one behind a closed engine,
which takes no documents, tells no count and may give no marked fragments. -/
inductive Engine where
  | own (index : Index)
  | closed (index : Index) (marks : Bool)
  deriving DecidableEq, Repr

namespace Engine

def size? : Engine → Option Nat
  | own index => some index.size
  | closed _ _ => none

def search (engine : Engine) (search : Search) : Except Failure SearchResult :=
  match engine with
  | own index => index.search search
  | closed index true => index.search search
  | closed index false => (index.search search).map fun result => { result with highlighting := [] }

end Engine

inductive Request where
  | health
  /-- Adds the document in a body that is given as text. -/
  | addText (body : Text)
  /-- Adds the document in a body that has been read. -/
  | add (body : Json)
  /-- Searches by parameters in the order of the address, for a caller at an address if known. -/
  | search (params : List (String × String)) (caller : Option String)

/-- The health of the service, with the number of its documents if it is known. -/
def health (engine : Engine) : Response :=
  .json 200 (.obj [
    ("status", .str "ok"),
    ("documents", (engine.size?.map fun n => Json.int n).getD .null)])

/-- Adds a document to the index, if its body is in order and the engine takes documents. -/
def addDocument (engine : Engine) (body : Json) : Response × Engine :=
  match DocumentBody.document body with
  | .bad faults => (.invalid faults, engine)
  | .ok document =>
    match engine with
    | .closed _ _ => (.detail 405 "Engine does not accept documents", engine)
    | .own index =>
      match index.add document with
      | .error cause => (.detail 400 cause.message, engine)
      | .ok (id, index) => (.json 200 (.obj [("id", .str id)]), .own index)

/-- Adds the document in a body that is text. An empty body counts as none. -/
def addText (engine : Engine) (body : Text) : Response × Engine :=
  if body.isEmpty then addDocument engine .null
  else
    match Json.parse body with
    | .ok v => addDocument engine v
    | .error (.malformed position) =>
      (.invalid [⟨.malformedText, [.key "body", .index position], .obj []⟩], engine)
    | .error .excessive => (.detail 400 "There was an error parsing the body", engine)

/-- The value of a parameter; of a repeated one the last. -/
def param? (params : List (String × String)) (name : String) : Option String :=
  Pairs.get? name params.reverse

/-- A parameter that holds an integer. -/
def integerParam (params : List (String × String)) (name : String) (default least : Nat)
    (most : Option Nat) : Checked Nat :=
  match param? params name with
  | none => .ok default
  | some s =>
    ((Settings.boundedInteger least most (.str s)).under (.key name)).under (.key "query")

/-- The window that a search asks for: its begin and its size. -/
def windowParams (params : List (String × String)) : Checked (Nat × Nat) :=
  let limits : PagingLimits := {}
  ((integerParam params "start" 0 0 none).map Prod.mk)
    |>.and (integerParam params "num" limits.defaultRows 1 (some limits.maxRows))

/-- The values of a request that its page repeats. -/
def echoed (params : List (String × String)) (caller : Option String) : EchoedRequest where
  query := some ((param? params "q").getD "" : String)
  sort := (param? params "sort").map .ofString
  client := (param? params "client").map .ofString
  site := (param? params "site").map .ofString
  ip := caller.map .ofString
  access := (param? params "access").map .ofString
  entqr := (param? params "entqr").map .ofString

/-- Answers a search with a page. A number that a field should hold and does not is explained; any
other failure is not. -/
def searchPage (engine : Engine) (identity : Text) (clock : Clock)
    (params : List (String × String)) (caller : Option String) : Response :=
  match windowParams params with
  | .bad faults => .invalid faults
  | .ok (start, rows) =>
    let query := (param? params "q").getD ""
    let request := echoed params caller
    let search : Search := {
      query
      offset := start
      rows := rows
      sort := requestedClause? request.sort
      fields := some Field.requested }
    match engine.search search with
    | .error _ => .internalError
    | .ok result =>
      let snippets := Snippets.ofHighlighting result.highlighting
      let written := result.page.assemble {} snippets request identity clock
      match written.outcome with
      | .ok content => ⟨200, Page.contentType, .text content, written.events⟩
      | .error cause =>
        if cause.isMalformedField then
          { Response.detail 500 cause.message with
            events := written.events ++ [.pageRefused query cause] }
        else { Response.internalError with events := written.events }

/-- Answers a request. Only a document that is added changes the engine. -/
def handle (identity : Text) (clock : Clock) (engine : Engine) : Request → Response × Engine
  | .health => (health engine, engine)
  | .addText body => addText engine body
  | .add body => addDocument engine body
  | .search params caller => (searchPage engine identity clock params caller, engine)

end SearchAppliance.Service
