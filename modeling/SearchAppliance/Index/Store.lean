import SearchAppliance.Document
import SearchAppliance.Failure

namespace SearchAppliance

structure Index where
  documents : List (Text × Fields) := []
  deriving DecidableEq, Repr

namespace Index

/-- The number of documents. -/
def size (index : Index) : Nat := index.documents.length

/-- Adds a document under the first value of its identifying field. A document that comes again
replaces the one before, at its place. -/
def add (index : Index) (document : Fields) : Except Failure (Text × Index) :=
  match document.documentId? with
  | none => .error (.missingField Field.identifier.name)
  | some id => .ok (id, { index with documents := Pairs.put id document index.documents })

/-- Adds documents in order, up to the first one that cannot be added. -/
def addAll (index : Index) : List Fields → Except Failure (List Text) × Index
  | [] => (.ok [], index)
  | document :: rest =>
    match index.add document with
    | .error cause => (.error cause, index)
    | .ok (id, index) =>
      let (outcome, index) := addAll index rest
      (outcome.map (id :: ·), index)

end Index

end SearchAppliance
