import SearchAppliance.Index.Query
import SearchAppliance.Index.Store
import SearchAppliance.Number.Numeral
import SearchAppliance.Result.Hit
import SearchAppliance.SortOrder

namespace SearchAppliance

structure Search where
  query : Text
  offset : Int := 0
  rows : Int := 10
  sort : Option Text := none
  /-- The fields to load; none means all. -/
  fields : Option (List Text) := none
  deriving DecidableEq, Repr

structure SearchResult where
  page : Page
  highlighting : Highlighting
  deriving Repr

/-- A document that answers a query. -/
structure Match where
  id : Text
  fields : Fields
  score : Nat
  position : Nat
  deriving DecidableEq, Repr

namespace Fields

/-- The number in the first value of a field, zero if it holds none. -/
def sortKey (fields : Fields) (field : Text) : Except Failure Int :=
  match (fields.values field).head?.bind (Number.Numeral.ofList? ·.toList) with
  | none => .ok 0
  | some n => n.value

/-- The fields that are asked for, in their order. -/
def restrict (wanted : Option (List Text)) (fields : Fields) : Fields :=
  match wanted with
  | none => fields
  | some names => fields.filter fun (name, _) => names.contains name

end Fields

namespace Index

/-- Documents from a position on that answer a query. -/
def matchesFrom (terms : List (List CodePoint)) : Nat → List (Text × Fields) → List Match
  | _, [] => []
  | position, (id, fields) :: rest =>
    match Query.score? terms fields with
    | some score => ⟨id, fields, score, position⟩ :: matchesFrom terms (position + 1) rest
    | none => matchesFrom terms (position + 1) rest

/-- The documents that answer a query, in the order of the index. -/
def matching (index : Index) (terms : List (List CodePoint)) : List Match :=
  matchesFrom terms 0 index.documents

end Index

namespace Match

/-- Does the first key, or with equal keys the first position, come first? -/
def before (a b : Int × Match) : Bool :=
  a.1 < b.1 || a.1 == b.1 && a.2.position ≤ b.2.position

/-- Matches by ascending keys; with equal keys, in the order of the index. -/
def arrange (keyed : List (Int × Match)) : List Match := (keyed.mergeSort before).map (·.2)

/-- Best matches first. -/
def byRelevance (found : List Match) : List Match :=
  arrange (found.map fun m => (-(m.score : Int), m))

/-- Matches by the number in a field, upwards or in exactly the reverse order. -/
def byField (clause : SortClause) (found : List Match) : Except Failure (List Match) := do
  let keyed ← found.mapM fun m => (m.fields.sortKey clause.field).map (·, m)
  let upwards := arrange keyed
  return if clause.descending then upwards.reverse else upwards

/-- The arrangement that a sort clause asks for; an empty clause counts as none. -/
def arrangement (sort : Option Text) (found : List Match) : Except Failure (List Match) :=
  match sort.filter (· ≠ ("" : Text)) with
  | none => .ok (byRelevance found)
  | some clause => byField (SortClause.parse clause) found

end Match

/-- The place that a number means in a list: negative numbers count from its end, and no place lies
outside the list. -/
def placeIn (length : Nat) (n : Int) : Nat :=
  if n < 0 then (n + length).toNat else min n.toNat length

/-- The part of a list from one place up to another. -/
def window {α : Type} (start stop : Int) (xs : List α) : List α :=
  (xs.take (placeIn xs.length stop)).drop (placeIn xs.length start)

namespace Index

/-- All documents that answer a query, in the order that is asked for. -/
def ranking (index : Index) (query : Text) (sort : Option Text) :
    Except Failure (List Match) :=
  Match.arrangement sort (index.matching (Query.terms query))

/-- The marked fragments of documents, those without fragments left out. -/
def highlighting (terms : List (List CodePoint)) (shown : List Match) : Highlighting :=
  if terms.isEmpty then []
  else
    (shown.map fun m => (m.id, Marking.highlight terms m.fields)).filter
      fun (_, fragments) => !fragments.isEmpty

/-- Answers a search request. -/
def search (index : Index) (request : Search) : Except Failure SearchResult := do
  let ranked ← index.ranking request.query request.sort
  let shown := window request.offset (request.offset + request.rows) ranked
  return {
    page := {
      offset := request.offset
      rows := request.rows
      found := ranked.length
      hits := shown.map fun m => m.fields.restrict request.fields }
    highlighting := highlighting (Query.terms request.query) shown }

end Index

end SearchAppliance
