import SearchAppliance.Text.LetterCase.Table

namespace SearchAppliance.Text.LetterCase

/-- The lower case of one character as one character. -/
def lowerChar (c : CodePoint) : CodePoint := CodePoint.ofNat (ShiftRun.move lowerRuns c.toNat)

def isCased (c : CodePoint) : Bool := casedRanges.covers c.toNat

def isIgnorable (c : CodePoint) : Bool := ignorableRanges.covers c.toNat

/-- Does the nearest character that case rules do not look through have case? -/
def meetsCased (cs : List CodePoint) : Bool :=
  (cs.dropWhile isIgnorable).head?.any isCased

/-- A capital sigma ends a word if a cased character comes before it and none after it.
`before` is read backwards. -/
def lowerFrom (before : List CodePoint) : List CodePoint → List CodePoint
  | [] => []
  | c :: cs =>
    let rest := lowerFrom (c :: before) cs
    if c = 'Σ' then (if meetsCased before && !meetsCased cs then 'ς' else 'σ') :: rest
    else if c = 'İ' then 'i' :: '\u0307' :: rest
    else lowerChar c :: rest

/-- Lower case of a text. Only the capital sigma looks at its neighbours, and only the dotted capital
I becomes two characters. -/
def lower (cs : List CodePoint) : List CodePoint := lowerFrom [] cs

/-- What is the same for all forms of a letter: the head of the family of its lower case. -/
def caseKey (c : CodePoint) : Nat :=
  let n := ShiftRun.move lowerRuns c.toNat
  (families.lookup n).getD n

/-- Are the two characters forms of one letter? -/
def alike (a b : CodePoint) : Bool := caseKey a == caseKey b

/-- Does the text begin with the term, up to the case of each character? -/
def beginsAlike : List CodePoint → List CodePoint → Bool
  | [], _ => true
  | _ :: _, [] => false
  | a :: term, b :: text => alike a b && beginsAlike term text

end SearchAppliance.Text.LetterCase
