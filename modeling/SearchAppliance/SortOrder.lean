import SearchAppliance.Schema
import SearchAppliance.Text.Words

namespace SearchAppliance

/-- The four parts of a complete sort expression. -/
structure SortParts where
  action : Text
  direction : Text
  mode : Text
  format : Text
  deriving DecidableEq, Repr

/-- A sort expression as given, with its parts if there are exactly four. -/
structure SortExpression where
  raw : Text
  parts : Option SortParts
  deriving DecidableEq, Repr

namespace SortExpression

def parse (raw : Text) : SortExpression :=
  match Text.cut (.char ':') raw.toList with
  | [action, direction, mode, format] =>
    ⟨raw, some ⟨Text.ofList action, Text.ofList direction, Text.ofList mode,
      Text.ofList format⟩⟩
  | _ => ⟨raw, none⟩

/-- The clause that sorts by a date field: only the action `date` does, downwards for the direction
`D` alone. Without a clause hits are sorted by relevance. -/
def clause? (sort : SortExpression) (dateField : Text) : Option Text :=
  sort.parts.bind fun parts =>
    if parts.action = "date" then
      some (dateField ++ (if parts.direction = "D" then " desc" else " asc" : Text))
    else none

end SortExpression

/-- The clause of a request's sort expression; an empty one counts as none. -/
def requestedClause? (sort : Option Text) : Option Text :=
  (sort.filter (· ≠ ("" : Text))).bind fun raw =>
    (SortExpression.parse raw).clause? Field.lastModified.name

/-- A sort clause taken apart: the field, and whether the order is reversed. -/
structure SortClause where
  field : Text
  descending : Bool
  deriving DecidableEq, Repr

/-- A clause is a field name, cut off at the first space, and a direction; only `desc` reverses. -/
def SortClause.parse (clause : Text) : SortClause :=
  let cs := clause.toList
  ⟨Text.ofList (cs.takeWhile (· ≠ .char ' ')),
    (cs.dropWhile (· ≠ .char ' ')).drop 1 = ("desc" : Text).toList⟩

end SearchAppliance
