namespace SearchAppliance.Text.Percent

/-- The marks that stay beside letters and digits. -/
def marks : List Char := "-._~:/?#[]@!$&'()*+,;=%".toList

def isSafe (c : Char) : Bool := c.isAlphanum || marks.contains c

def hexDigit (n : Nat) : Char := (Nat.digitChar n).toUpper

def byte (b : UInt8) : List Char := ['%', hexDigit (b.toNat / 16), hexDigit (b.toNat % 16)]

def character (c : Char) : List Char :=
  if isSafe c then [c] else (String.utf8EncodeChar c).flatMap byte

def encode (cs : List Char) : List Char := cs.flatMap character

def encoded (s : String) : String := String.ofList (encode s.toList)

end SearchAppliance.Text.Percent

namespace SearchAppliance.Text.Base64Url

def alphabet : List Char :=
  "ABCDEFGHIJKLMNOPQRSTUVWXYZabcdefghijklmnopqrstuvwxyz0123456789-_".toList

/-- The character of a six-bit number. -/
def letter (n : Nat) : Char := alphabet.getD n '='

/-- Three bytes are four letters; a last group of one or two bytes is filled up with `=`. -/
def encode : List UInt8 → List Char
  | a :: b :: c :: rest =>
    let n := a.toNat * 65536 + b.toNat * 256 + c.toNat
    letter (n / 262144) :: letter (n / 4096 % 64) :: letter (n / 64 % 64) :: letter (n % 64)
      :: encode rest
  | [a, b] =>
    let n := a.toNat * 1024 + b.toNat * 4
    [letter (n / 4096), letter (n / 64 % 64), letter (n % 64), '=']
  | [a] =>
    let n := a.toNat * 16
    [letter (n / 64), letter (n % 64), '=', '=']
  | [] => []

end SearchAppliance.Text.Base64Url
