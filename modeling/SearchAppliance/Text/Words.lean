import SearchAppliance.Text.Basic

namespace SearchAppliance.Text

/-- Spaces of every width, tabs, line ends and the four information separators. -/
def isBlank (c : CodePoint) : Bool :=
  let n := c.toNat
  9 ≤ n && n ≤ 13 || 28 ≤ n && n ≤ 32 || n == 0x85 || n == 0xA0 || n == 0x1680
    || 0x2000 ≤ n && n ≤ 0x200A || n == 0x2028 || n == 0x2029 || n == 0x202F || n == 0x205F
    || n == 0x3000

/-- The word that reaches the left end, possibly empty, and the words after it. -/
def headWord : List CodePoint → List CodePoint × List (List CodePoint)
  | [] => ([], [])
  | c :: cs =>
    let (word, rest) := headWord cs
    if isBlank c then ([], if word.isEmpty then rest else word :: rest) else (c :: word, rest)

/-- The maximal runs of characters that are not blank, in order. -/
def words (cs : List CodePoint) : List (List CodePoint) :=
  let (word, rest) := headWord cs
  if word.isEmpty then rest else word :: rest

/-- A blank separates the words on its two sides. -/
theorem words_append_blank (a b : List CodePoint) (c : CodePoint) (h : isBlank c = true) :
    words (a ++ c :: b) = words a ++ words b := by
  have hw : headWord (a ++ c :: b) = ((headWord a).1, (headWord a).2 ++ words b) := by
    induction a with
    | nil => simp [headWord, h, words]
    | cons d ds ih =>
      simp only [List.cons_append, headWord, ih]
      split <;> simp
      split <;> simp
  simp only [words, hw]
  split <;> simp

theorem ne_nil_of_filled {word : List CodePoint} {rest : List (List CodePoint)}
    (h : ∀ other ∈ rest, other ≠ []) :
    ∀ other ∈ if word.isEmpty then rest else word :: rest, other ≠ [] := by
  cases word with
  | nil => exact h
  | cons c cs => simpa using h

theorem headWord_ne_nil (cs : List CodePoint) : ∀ word ∈ (headWord cs).2, word ≠ [] := by
  induction cs with
  | nil => simp [headWord]
  | cons c cs ih =>
    simp only [headWord]
    split
    · exact ne_nil_of_filled ih
    · exact ih

/-- No word is empty. -/
theorem words_ne_nil (cs : List CodePoint) : ∀ word ∈ words cs, word ≠ [] :=
  ne_nil_of_filled (headWord_ne_nil cs)

example : words ("  ab c\u00a0" : Text).toList = [("ab" : Text).toList, ("c" : Text).toList] := by
  decide

/-- Leftmost occurrences that do not overlap; `skip` characters belong to the last one counted. -/
def countFrom (needle : List CodePoint) : Nat → List CodePoint → Nat
  | _, [] => 0
  | 0, c :: cs =>
    if needle.isPrefixOf (c :: cs) then countFrom needle (needle.length - 1) cs + 1
    else countFrom needle 0 cs
  | skip + 1, _ :: cs => countFrom needle skip cs

/-- The number of leftmost occurrences that do not overlap, of a text that is not empty. -/
def occurrences (needle hay : List CodePoint) : Nat := countFrom needle 0 hay

example : occurrences ("aa" : Text).toList ("aaaaa" : Text).toList = 2 := by decide

/-- The parts of a text between the places where a character stands, at least one. -/
def cut {α : Type} [DecidableEq α] (stop : α) : List α → List (List α)
  | [] => [[]]
  | c :: cs =>
    if c = stop then [] :: cut stop cs
    else
      match cut stop cs with
      | [] => [[c]]
      | part :: rest => (c :: part) :: rest

end SearchAppliance.Text
