import SearchAppliance.Pairs
import SearchAppliance.Schema

namespace SearchAppliance

/-- The fields of one document; no name occurs twice. -/
abbrev Fields := List (Text × List Text)

/-- What is given for a field of a new document: one value, or any number of them. -/
inductive Given where
  | one (value : Text)
  | many (values : List Text)
  deriving DecidableEq, Repr

def Given.values : Given → List Text
  | one value => [value]
  | many values => values

namespace Fields

/-- The fields of a document from what is given for them. -/
def ofGiven (document : List (Text × Given)) : Fields :=
  document.map fun (name, given) => (name, given.values)

/-- The values of a field, none if the document does not have it. -/
def values (fields : Fields) (field : Text) : List Text := (Pairs.get? field fields).getD []

/-- The first value of the field that identifies a document. -/
def documentId? (fields : Fields) : Option Text := (fields.values Field.identifier.name).head?

/-- All values with the names of their fields, in order. -/
def entries (fields : Fields) : List (Text × Text) :=
  fields.flatMap fun (name, values) => values.map (name, ·)

end Fields

/-- A window of the hits that were found, with where it was cut. -/
structure Page where
  offset : Int
  rows : Int
  found : Int
  hits : List Fields
  deriving Repr

namespace Page

/-- Where the page after this one begins: behind its last hit. -/
def nextStart (page : Page) : Int := page.offset + page.hits.length

/-- The number of hits on a page that begins at `offset`: as many as were asked for, or what is left. -/
def expectedSize (offset rows found : Int) : Int :=
  if found ≤ offset then 0 else min rows (found - offset)

end Page

/-- Values of the request that a page repeats. -/
structure EchoedRequest where
  query : Option Text := none
  sort : Option Text := none
  client : Option Text := none
  site : Option Text := none
  ip : Option Text := none
  access : Option Text := none
  entqr : Option Text := none
  deriving DecidableEq, Repr

end SearchAppliance
