import SearchAppliance.Text.Printable

namespace SearchAppliance.Text.Quoted

/-- The last `width` hexadecimal digits of a number, in lower case. -/
def hexDigits : Nat → Nat → List Char
  | 0, _ => []
  | width + 1, n => hexDigits width (n / 16) ++ [Nat.digitChar (n % 16)]

/-- A character that is not printable, by number: two, four or eight digits. -/
def numbered (c : CodePoint) : List Char :=
  let n := c.toNat
  if n < 0x100 then '\\' :: 'x' :: hexDigits 2 n
  else if n < 0x10000 then '\\' :: 'u' :: hexDigits 4 n
  else '\\' :: 'U' :: hexDigits 8 n

def character (quote : Char) (c : CodePoint) : List Char :=
  match c with
  | .char '\n' => ['\\', 'n']
  | .char '\r' => ['\\', 'r']
  | .char '\t' => ['\\', 't']
  | .char d =>
    if d = quote || d = '\\' then ['\\', d]
    else if Printable.isPrintable d then [d]
    else numbered d
  | .surrogate _ => numbered c

/-- Single quotes, unless the text holds a single quote and no double one. -/
def quoteFor (cs : List CodePoint) : Char :=
  if cs.contains '\x27' && !cs.contains '"' then '"' else '\x27'

def ofList (cs : List CodePoint) : List Char :=
  let quote := quoteFor cs
  quote :: cs.flatMap (character quote) ++ [quote]

/-- The quoted form of a text. -/
def quoted (t : Text) : String := String.ofList (ofList t.toList)

end SearchAppliance.Text.Quoted
