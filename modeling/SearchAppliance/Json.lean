import SearchAppliance.Number.Numeral
import SearchAppliance.Pairs

namespace SearchAppliance

/-- An object's keys are distinct and stand in the order in which they came in. -/
inductive Json where
  | null
  | bool (b : Bool)
  | int (n : Int)
  | float (x : Float)
  | str (s : Text)
  | arr (items : List Json)
  | obj (members : List (Text × Json))
  deriving Inhabited

namespace Json

mutual

/-- Can the value be sent? The infinities and the undefined number have no JSON form, and texts with
surrogates have no bytes. -/
def canBeSent : Json → Bool
  | float x => x.isFinite
  | str s => s.string?.isSome
  | arr items => allCanBeSent items
  | obj members => membersCanBeSent members
  | _ => true

def allCanBeSent : List Json → Bool
  | [] => true
  | v :: rest => canBeSent v && allCanBeSent rest

def membersCanBeSent : List (Text × Json) → Bool
  | [] => true
  | (name, v) :: rest => name.string?.isSome && canBeSent v && membersCanBeSent rest

end

/-- Why a text is refused. -/
inductive Fault where
  /-- The text goes wrong at the character with this number. -/
  | malformed (position : Nat)
  /-- The text exceeds a limit of the reader. -/
  | excessive
  deriving DecidableEq, Repr

namespace Reader

/-- Where reading stops: the rest of the text at the fault. -/
inductive Stop where
  | malformed (rest : List CodePoint)
  | excessive

/-- What a part of the text stands for, and the text after it. -/
abbrev Step (α : Type) := Except Stop (α × List CodePoint)

/-- How deep lists and objects may stand inside each other. -/
def nestingLimit : Nat := 960

def isSpace (c : CodePoint) : Bool := c = ' ' || c = '\t' || c = '\n' || c = '\r'

def skipSpace (cs : List CodePoint) : List CodePoint := cs.dropWhile isSpace

def hexValue? (c : CodePoint) : Option Nat :=
  let n := c.toNat
  if 48 ≤ n && n ≤ 57 then some (n - 48)
  else if 97 ≤ n && n ≤ 102 then some (n - 87)
  else if 65 ≤ n && n ≤ 70 then some (n - 55)
  else none

/-- The number of four hexadecimal digits, if at least one character follows them. -/
def codeUnit? (cs : List CodePoint) : Option Nat :=
  if cs.length < 5 then none
  else ((cs.take 4).mapM hexValue?).map (·.foldl (fun n d => 16 * n + d) 0)

/-- A numbered character, after its `u`; `start` begins with that `u`. Two numbers that are the halves
of one character count as that character; a half without the other one stays alone. -/
def numbered (start cs : List CodePoint) : Step CodePoint :=
  match codeUnit? (cs.take 5) with
  | none => .error (.malformed start)
  | some n =>
    let rest := cs.drop 4
    match rest with
    | .char '\\' :: .char 'u' :: low =>
      if 0xD800 ≤ n && n < 0xDC00 && 5 ≤ (low.take 5).length then
        match codeUnit? (low.take 5) with
        | none => .error (.malformed (.char 'u' :: low))
        | some m =>
          if 0xDC00 ≤ m && m < 0xE000 then
            .ok (.ofNat (0x10000 + (n - 0xD800) * 0x400 + (m - 0xDC00)), low.drop 4)
          else .ok (.ofNat n, rest)
      else .ok (.ofNat n, rest)
    | _ => .ok (.ofNat n, rest)

/-- The character that an escape stands for; `start` begins with the backslash. -/
def escape (start : List CodePoint) : List CodePoint → Step CodePoint
  | .char 'u' :: cs => numbered (.char 'u' :: cs) cs
  | .char '"' :: cs => .ok ('"', cs)
  | .char '\\' :: cs => .ok ('\\', cs)
  | .char '/' :: cs => .ok ('/', cs)
  | .char 'b' :: cs => .ok ('\x08', cs)
  | .char 'f' :: cs => .ok ('\x0c', cs)
  | .char 'n' :: cs => .ok ('\n', cs)
  | .char 'r' :: cs => .ok ('\r', cs)
  | .char 't' :: cs => .ok ('\t', cs)
  | _ => .error (.malformed start)

/-- The rest of a string whose text begins with `start`; `read` holds its characters backwards. -/
def string (start : List CodePoint) : Nat → List CodePoint → List CodePoint → Step Text
  | 0, _, _ => .error (.malformed start)
  | _ + 1, _, [] => .error (.malformed start)
  | _ + 1, read, .char '"' :: cs => .ok (Text.ofList read.reverse, cs)
  | _ + 1, _, [.char '\\'] => .error (.malformed start)
  | fuel + 1, read, .char '\\' :: cs =>
    match escape (.char '\\' :: cs) cs with
    | .error stop => .error stop
    | .ok (c, rest) => string start fuel (c :: read) rest
  | fuel + 1, read, c :: cs =>
    if c.toNat < 32 then .error (.malformed (c :: cs)) else string start fuel (c :: read) cs

def isDigit (c : CodePoint) : Bool := 48 ≤ c.toNat && c.toNat ≤ 57

def digitsValue (cs : List CodePoint) : Nat := cs.foldl (fun n c => 10 * n + (c.toNat - 48)) 0

/-- The double nearest to `digits · 10 ^ exponent`. Exponents beyond those of doubles are answered
without computing the power. -/
def nearest (digits : List CodePoint) (exponent : Int) : Float :=
  let m := digitsValue digits
  let size := (digits.dropWhile (· = .char '0')).length + exponent
  if m = 0 || size < -400 then 0.0
  else if 400 < size then 1.0 / 0.0
  else Float.ofScientific m (exponent < 0) exponent.natAbs

/-- Fraction digits after a point, if there is at least one. -/
def fraction : List CodePoint → List CodePoint × List CodePoint
  | .char '.' :: cs =>
    if (cs.takeWhile isDigit).isEmpty then ([], .char '.' :: cs)
    else (cs.takeWhile isDigit, cs.dropWhile isDigit)
  | cs => ([], cs)

/-- The exponent part, if it has at least one digit. -/
def exponent? (cs : List CodePoint) : Option (Int × List CodePoint) :=
  match cs with
  | e :: cs =>
    if e = 'e' || e = 'E' then
      let (negative, cs) :=
        match cs with
        | .char '-' :: cs => (true, cs)
        | .char '+' :: cs => (false, cs)
        | cs => (false, cs)
      let digits := cs.takeWhile isDigit
      if digits.isEmpty then none
      else
        let n : Int := digitsValue digits
        some (if negative then -n else n, cs.dropWhile isDigit)
    else none
  | [] => none

/-- A number whose text begins with `start`, after an optional minus. -/
def number (start : List CodePoint) (negative : Bool) (cs : List CodePoint) : Step Json :=
  let (whole, rest) : List CodePoint × List CodePoint :=
    match cs with
    | .char '0' :: rest => ([.char '0'], rest)
    | cs => (cs.takeWhile isDigit, cs.dropWhile isDigit)
  if whole.isEmpty then .error (.malformed start)
  else
    let (places, rest) := fraction rest
    match exponent? rest, places with
    | none, [] =>
      if Number.digitLimit < whole.length then .error .excessive
      else
        let n : Int := digitsValue whole
        .ok (.int (if negative then -n else n), rest)
    | exponent, places =>
      let (e, rest) := exponent.getD (0, rest)
      let x := nearest (whole ++ places) (e - places.length)
      .ok (.float (if negative then -x else x), rest)

mutual

/-- A value. `depth` is how many levels of nesting are left, `fuel` bounds the steps. -/
def value (depth : Nat) : Nat → List CodePoint → Step Json
  | 0, cs => .error (.malformed cs)
  | fuel + 1, cs =>
    match cs with
    | .char '"' :: rest => (string cs (rest.length + 1) [] rest).map fun (s, rest) => (.str s, rest)
    | .char '[' :: rest =>
      if depth = 0 then .error .excessive
      else
        match skipSpace rest with
        | .char ']' :: rest => .ok (.arr [], rest)
        | rest => (items (depth - 1) fuel [] rest).map fun (vs, rest) => (.arr vs, rest)
    | .char '{' :: rest =>
      if depth = 0 then .error .excessive
      else
        match skipSpace rest with
        | .char '}' :: rest => .ok (.obj [], rest)
        | rest => (members (depth - 1) fuel [] rest).map fun (ms, rest) => (.obj ms, rest)
    | .char 'n' :: .char 'u' :: .char 'l' :: .char 'l' :: rest => .ok (.null, rest)
    | .char 't' :: .char 'r' :: .char 'u' :: .char 'e' :: rest => .ok (.bool true, rest)
    | .char 'f' :: .char 'a' :: .char 'l' :: .char 's' :: .char 'e' :: rest =>
      .ok (.bool false, rest)
    | .char 'N' :: .char 'a' :: .char 'N' :: rest => .ok (.float (0.0 / 0.0), rest)
    | .char 'I' :: .char 'n' :: .char 'f' :: .char 'i' :: .char 'n' :: .char 'i' :: .char 't'
        :: .char 'y' :: rest =>
      .ok (.float (1.0 / 0.0), rest)
    | .char '-' :: .char 'I' :: .char 'n' :: .char 'f' :: .char 'i' :: .char 'n' :: .char 'i'
        :: .char 't' :: .char 'y' :: rest =>
      .ok (.float (-1.0 / 0.0), rest)
    | .char '-' :: rest => number cs true rest
    | _ => number cs false cs

/-- The items of a list up to its closing bracket; `read` holds those before, backwards. -/
def items (depth : Nat) : Nat → List Json → List CodePoint → Step (List Json)
  | 0, _, cs => .error (.malformed cs)
  | fuel + 1, read, cs =>
    match value depth fuel cs with
    | .error stop => .error stop
    | .ok (v, rest) =>
      match skipSpace rest with
      | .char ']' :: rest => .ok ((v :: read).reverse, rest)
      | .char ',' :: rest => items depth fuel (v :: read) (skipSpace rest)
      | rest => .error (.malformed rest)

/-- The members of an object up to its closing brace. A key that comes again gets the later value. -/
def members (depth : Nat) : Nat → List (Text × Json) → List CodePoint → Step (List (Text × Json))
  | 0, _, cs => .error (.malformed cs)
  | fuel + 1, read, cs =>
    match cs with
    | .char '"' :: rest =>
      match string cs (rest.length + 1) [] rest with
      | .error stop => .error stop
      | .ok (key, rest) =>
        match skipSpace rest with
        | .char ':' :: rest =>
          match value depth fuel (skipSpace rest) with
          | .error stop => .error stop
          | .ok (v, rest) =>
            match skipSpace rest with
            | .char '}' :: rest => .ok (Pairs.put key v read, rest)
            | .char ',' :: rest => members depth fuel (Pairs.put key v read) (skipSpace rest)
            | rest => .error (.malformed rest)
        | rest => .error (.malformed rest)
    | _ => .error (.malformed cs)

end

end Reader

/-- The value that a text stands for. A byte order mark before it is passed over. -/
def parse (text : Text) : Except Fault Json :=
  let cs :=
    match text.toList with
    | .char '\ufeff' :: cs => cs
    | cs => cs
  let fault : Reader.Stop → Fault
    | .malformed rest => .malformed (cs.length - rest.length)
    | .excessive => .excessive
  match Reader.value Reader.nestingLimit (2 * cs.length + 2) (Reader.skipSpace cs) with
  | .error stop => .error (fault stop)
  | .ok (v, rest) =>
    match Reader.skipSpace rest with
    | [] => .ok v
    | rest => .error (fault (.malformed rest))

end Json

end SearchAppliance
