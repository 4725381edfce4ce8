import SearchAppliance.Number.Dyadic
import SearchAppliance.Number.Numeral
import SearchAppliance.Pairs
import SearchAppliance.Settings.Fault
import SearchAppliance.Text.Words

namespace SearchAppliance.Settings

/-- Blanks at the ends of an option; the information separators do not count here. -/
def isMargin (c : Char) : Bool := Text.isBlank (c : CodePoint) && !(28 ≤ c.toNat && c.toNat ≤ 31)

def trim (cs : List Char) : List Char :=
  ((cs.dropWhile isMargin).reverse.dropWhile isMargin).reverse

namespace IntegerText

/-- The value of a plain numeral: an optional minus, then digits without leading zeros. A longer run
of digits than the limit is a fault of its own, however the text goes on. The minus is no digit. -/
def plain? (cs : List Char) : Option (Except FaultKind Int) :=
  let (negative, rest) :=
    match cs with
    | '-' :: rest => (true, rest)
    | rest => (false, rest)
  let digits := if rest.head? = some '0' then ['0'] else rest.takeWhile Char.isDigit
  if Number.digitLimit < digits.length then some (.error .integerSize)
  else if digits.isEmpty || digits.length ≠ rest.length then none
  else
    let n : Int := digits.foldl (fun m c => 10 * m + (c.toNat - 48)) 0
    some (.ok (if negative then -n else n))

/-- Zeros in front of a number, and the underscores among them. -/
def isPadding (c : Char) : Bool := c = '0' || c = '_'

/-- Without the padding in front. Its last character stays before a point and at the end, where an
underscore then makes the numeral fail. A minus may follow the padding as a digit may. -/
def unpad (cs : List Char) : Option (List Char) :=
  match cs.head? with
  | some '0' =>
    let last := ((cs.takeWhile isPadding).getLast?).getD '0'
    match cs.dropWhile isPadding with
    | [] => some [last]
    | c :: rest =>
      if c = '.' then some (last :: c :: rest)
      else if c.isDigit || c = '-' then some (c :: rest)
      else none
  | some c => if c.isDigit then some cs else none
  | none => none

/-- Without a point that zeros follow, at least one, and nothing else. -/
def stripPlaces (cs : List Char) : List Char :=
  let places := (cs.dropWhile (· ≠ '.')).drop 1
  if !places.isEmpty && places.all (· = '0') then cs.takeWhile (· ≠ '.') else cs

def hasDouble : List Char → Bool
  | '_' :: '_' :: _ => true
  | _ :: cs => hasDouble cs
  | [] => false

/-- Without underscores, if each stands alone between two characters. -/
def stripUnderscores (cs : List Char) : List Char :=
  if cs.head? = some '_' || cs.getLast? = some '_' || hasDouble cs then cs
  else cs.filter (· ≠ '_')

/-- The plain numeral that an integer's text is brought to. A plus counts only without a minus right
after it; a minus stays in front. -/
def tidy (cs : List Char) : Option (List Char) :=
  let digits? :=
    match trim cs with
    | '+' :: '-' :: _ => none
    | '+' :: rest => unpad rest
    | '-' :: rest => (unpad rest).map ('-' :: ·)
    | rest => unpad rest
  digits?.map fun digits => stripUnderscores (stripPlaces digits)

/-- An integer as text: blanks around it, a plus, zeros at the front, single underscores and a point
with zeros do not count. -/
def read (cs : List Char) : Except FaultKind Int :=
  match plain? cs with
  | some result => result
  | none =>
    match (tidy cs).bind plain? with
    | some (.ok n) => .ok n
    | _ => .error .integerSpelling

end IntegerText

/-- Whole numbers below this limit, of either sign, fit into 64 bits. -/
def wordLimit : Nat := 0x8000000000000000

/-- The whole number in a double, if it fits into 64 bits. -/
def wholeDouble (x : Float) : Except FaultKind Int :=
  match Number.Dyadic.ofFloat? x with
  | none => .error .finiteExpected
  | some d =>
    if !d.isInteger then .error .integerFraction
    else if d.truncate.natAbs < wordLimit then .ok d.truncate
    else .error .integerSize

def integer (v : Json) : Checked Int :=
  let result : Except FaultKind Int :=
    match v with
    | .int n => .ok n
    | .bool b => .ok (if b then 1 else 0)
    | .float x => wholeDouble x
    | .str s =>
      match s.string? with
      | some s => IntegerText.read s.toList
      | none => .error .textUnicode
    | _ => .error .integerExpected
  match result with
  | .ok n => .ok n
  | .error kind => .fail kind v

/-- An integer of at least `least` and, where there is a bound, at most `most`. -/
def boundedInteger (least : Nat) (most : Option Nat) (v : Json) : Checked Nat :=
  (integer v).bind fun n =>
    if most.any (fun m => (m : Int) < n) then .fail .tooLarge v
    else if n < least then .fail .tooSmall v
    else .ok n.toNat

def trueWords : List String := ["1", "on", "t", "true", "y", "yes"]

def falseWords : List String := ["0", "off", "f", "false", "n", "no"]

/-- A number that stands for a truth value. -/
def truth? (n : Int) : Option Bool := if n = 0 then some false else if n = 1 then some true else none

/-- A truth value. Numbers with a fraction or beyond 64 bits are of the wrong kind; other numbers and
texts are of the right kind and spelled wrongly. -/
def boolean (v : Json) : Checked Bool :=
  let spelled (b? : Option Bool) : Checked Bool :=
    match b? with
    | some b => .ok b
    | none => .fail .booleanSpelling v
  match v with
  | .bool b => .ok b
  | .str s =>
    match s.string? with
    | none => .fail .textUnicode v
    | some s =>
      let word := String.ofList (s.toList.map Char.toLower)
      spelled (if trueWords.contains word then some true
        else if falseWords.contains word then some false else none)
  | .int n =>
    if -wordLimit ≤ n ∧ n < wordLimit then spelled (truth? n) else .fail .booleanExpected v
  | .float x =>
    match wholeDouble x with
    | .ok n => spelled (truth? n)
    | .error _ => .fail .booleanExpected v
  | _ => .fail .booleanExpected v

def text (v : Json) : Checked Text :=
  match v with
  | .str s => .ok s
  | _ => .fail .textExpected v

/-- A text of which more is asked than that it is one; it may have no surrogates then. -/
def string (v : Json) : Checked String :=
  (text v).bind fun s =>
    match s.string? with
    | some s => .ok s
    | none => .fail .textUnicode v

def nonEmptyString (v : Json) : Checked String :=
  (string v).bind fun s => if s.isEmpty then .fail .textTooShort v else .ok s

def listOf {α : Type} (check : Json → Checked α) (v : Json) : Checked (List α) :=
  match v with
  | .arr items => Checked.each check 0 items
  | _ => .fail .listExpected v

/-- The members of a record that is part of another value. -/
def record (v : Json) : Checked (List (Text × Json)) :=
  match v with
  | .obj members => .ok members
  | _ => .fail .recordExpected v

/-- A member that has to be there. -/
def required {α : Type} (check : Json → Checked α) (name : String)
    (members : List (Text × Json)) : Checked α :=
  (match Pairs.get? (name : Text) members with
    | some v => check v
    | none => .fail .missing (.obj members)).under (.key name)

/-- A member that has a value also when it is not given. -/
def optional {α : Type} (check : Json → Checked α) (name : String) (default : α)
    (members : List (Text × Json)) : Checked α :=
  match Pairs.get? (name : Text) members with
  | some v => (check v).under (.key name)
  | none => .ok default

end SearchAppliance.Settings
