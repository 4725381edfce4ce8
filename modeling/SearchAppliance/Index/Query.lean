import SearchAppliance.Document
import SearchAppliance.Text.Escape
import SearchAppliance.Text.LetterCase
import SearchAppliance.Text.Words

namespace SearchAppliance

namespace Query

/-- The words of a query, in lower case. -/
def terms (query : Text) : List (List CodePoint) :=
  (Text.words query.toList).map Text.LetterCase.lower

/-- The texts of a document in which words are looked for, in lower case. -/
def texts (fields : Fields) : List (List CodePoint) :=
  (Field.searchable.flatMap fun field => fields.values field.name).map fun value =>
    Text.LetterCase.lower value.toList

/-- Texts one after another, with a space between two of them. -/
def joined (texts : List (List CodePoint)) : List CodePoint := List.intercalate [.char ' '] texts

/-- How often the terms occur in all, if each of them occurs. -/
def score? (terms : List (List CodePoint)) (fields : Fields) : Option Nat :=
  let text := joined (texts fields)
  let counts := terms.map (Text.occurrences · text)
  if counts.any (· = 0) then none else some (counts.foldr (· + ·) 0)

end Query

namespace Marking

/-- A stretch of a text, marked or not. -/
structure Piece where
  marked : Bool
  text : List CodePoint
  deriving DecidableEq, Repr

/-- The length of the first term, in the order of the query, with which the text begins. -/
def matchLength? (terms : List (List CodePoint)) (text : List CodePoint) : Option Nat :=
  (terms.find? fun term => Text.LetterCase.beginsAlike term text).map List.length

/-- Pieces with one more unmarked character before them. -/
def extend (c : CodePoint) : List Piece → List Piece
  | ⟨false, text⟩ :: rest => ⟨false, c :: text⟩ :: rest
  | pieces => ⟨false, [c]⟩ :: pieces

/-- The pieces of a text of which `skip` characters belong to a marked piece that has begun. -/
def piecesFrom (terms : List (List CodePoint)) : Nat → List CodePoint → List Piece
  | _, [] => []
  | skip + 1, _ :: cs => piecesFrom terms skip cs
  | 0, c :: cs =>
    match matchLength? terms (c :: cs) with
    | some n => ⟨true, (c :: cs).take n⟩ :: piecesFrom terms (n - 1) cs
    | none => extend c (piecesFrom terms 0 cs)

/-- A text cut at its matches: they are leftmost, do not overlap, and each is the first term of the
query that fits. -/
def pieces (terms : List (List CodePoint)) (text : List CodePoint) : List Piece := piecesFrom terms 0 text

/-- A piece as HTML; a marked one is bold. -/
def Piece.html (piece : Piece) : List CodePoint :=
  if piece.marked then ("<b>" : Text).toList ++ Text.Escape.html piece.text ++ ("</b>" : Text).toList
  else Text.Escape.html piece.text

/-- The characters of a value that a fragment shows at most. -/
def fragmentLimit : Nat := 240

/-- The fragment of a value, if a term stands in what it shows. -/
def fragment? (terms : List (List CodePoint)) (value : Text) : Option Text :=
  let cut := pieces terms (value.toList.take fragmentLimit)
  if cut.any (·.marked) then some (Text.ofList (cut.flatMap Piece.html)) else none

/-- For each field that is marked, the fragments of its values; fields without one are left out. -/
def highlight (terms : List (List CodePoint)) (fields : Fields) : List (Text × List Text) :=
  (Field.highlighted.map fun field =>
      ((field.name : Text), (fields.values field.name).filterMap (fragment? terms))).filter
    fun (_, fragments) => !fragments.isEmpty

end Marking

end SearchAppliance
