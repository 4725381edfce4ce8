import SearchAppliance.Proofs.Index.Fragments
import SearchAppliance.Proofs.Index.Marks

namespace SearchAppliance

namespace Text.Html

/-- A stretch of a text, from one place up to another. -/
structure Span where
  start : Nat
  stop : Nat
  deriving DecidableEq, Repr

/-- The bold stretches of a text that is read from a place on, the last of them begun at `start`. -/
def boldFrom (start place : Nat) : List Sign → List Span
  | [] => []
  | .opening :: signs => boldFrom place place signs
  | .closing :: signs => ⟨start, place⟩ :: boldFrom place place signs
  | .letter _ :: signs => boldFrom start (place + 1) signs

/-- The bold stretches of a text, by the places of its letters. -/
def bold (signs : List Sign) : List Span := boldFrom 0 0 signs

theorem boldFrom_letters (start place : Nat) (cs : List CodePoint) (signs : List Sign) :
    boldFrom start place (cs.map .letter ++ signs) = boldFrom start (place + cs.length) signs := by
  induction cs generalizing place with
  | nil => rfl
  | cons c cs ih =>
    rw [List.map_cons, List.cons_append, boldFrom, ih, List.length_cons]
    congr 1
    omega

end Text.Html

namespace Marking

open Text.Html (Sign Span signs? alternates letters boldFrom bold)
open Text.LetterCase (StandsAt alike isSingle)

/-- Is it the first term, in the order of the query, that stands at a place of the text? -/
def FirstAt (terms : List (List CodePoint)) (text : List CodePoint) (place : Nat)
    (term : List CodePoint) : Prop :=
  StandsAt term text place ∧
    ∃ front rest, terms = front ++ term :: rest ∧ ∀ other ∈ front, ¬StandsAt other text place

/-- What a scan of a text finds from a place on: nothing if no term stands there any more. Otherwise
it finds the first term at the first place where one stands, and then what follows behind it. -/
inductive Scanned (terms : List (List CodePoint)) (text : List CodePoint) : Nat → List Span → Prop
  | done {place : Nat} :
      (∀ later, place ≤ later → ∀ term ∈ terms, ¬StandsAt term text later) →
      Scanned terms text place []
  | next {place start : Nat} {term : List CodePoint} {rest : List Span} : place ≤ start →
      (∀ earlier, place ≤ earlier → earlier < start → ∀ term ∈ terms, ¬StandsAt term text earlier) →
      FirstAt terms text start term → Scanned terms text (start + term.length) rest →
      Scanned terms text place (⟨start, start + term.length⟩ :: rest)

variable {terms : List (List CodePoint)} {text : List CodePoint}

theorem firstAt_iff {place : Nat} {term : List CodePoint} :
    FirstAt terms text place term ↔
      terms.find? (fun term => Text.LetterCase.beginsAlike term (text.drop place)) = some term := by
  simp only [FirstAt, List.find?_eq_some_iff_append, Text.LetterCase.standsAt_iff,
    Bool.not_eq_true, Bool.not_eq_true']

theorem FirstAt.mem {place : Nat} {term : List CodePoint} (h : FirstAt terms text place term) :
    term ∈ terms :=
  List.mem_of_find?_eq_some (firstAt_iff.mp h)

theorem FirstAt.unique {place : Nat} {term other : List CodePoint} (h : FirstAt terms text place term)
    (ho : FirstAt terms text place other) : other = term :=
  Option.some.inj ((firstAt_iff.mp ho).symm.trans (firstAt_iff.mp h))

/-- A scan finds one thing only. -/
theorem Scanned.unique {place : Nat} {spans other : List Span} (h : Scanned terms text place spans)
    (ho : Scanned terms text place other) : other = spans := by
  induction h generalizing other with
  | done hno =>
    cases ho with
    | done => rfl
    | next hle _ hfirst _ => exact absurd hfirst.1 (hno _ hle _ hfirst.mem)
  | @next place start term rest hle hno hfirst _ ih =>
    cases ho with
    | done hnone => exact absurd hfirst.1 (hnone _ hle _ hfirst.mem)
    | @next _ other found more hother hearlier hfound hmore =>
      obtain rfl : other = start := by
        rcases Nat.lt_trichotomy other start with hlt | heq | hgt
        · exact absurd hfound.1 (hno _ hother hlt _ hfound.mem)
        · exact heq
        · exact absurd hfirst.1 (hearlier _ hle hgt _ hfirst.mem)
      obtain rfl := hfirst.unique hfound
      rw [ih hmore]

/-- Where no term stands, a scan may as well begin at the next place. -/
theorem Scanned.earlier {place : Nat} {spans : List Span}
    (h : Scanned terms text (place + 1) spans) (hno : ∀ term ∈ terms, ¬StandsAt term text place) :
    Scanned terms text place spans := by
  have hat (later : Nat) (hle : place ≤ later) : later = place ∨ place + 1 ≤ later := by omega
  cases h with
  | done hnone =>
    refine .done fun later hle => ?_
    rcases hat later hle with rfl | hgt
    · exact hno
    · exact hnone later hgt
  | next hle hearlier hfirst hrest =>
    refine .next (by omega) (fun earlier hge hlt => ?_) hfirst hrest
    rcases hat earlier hge with rfl | hgt
    · exact hno
    · exact hearlier earlier hgt hlt

/-- Wherever a term stands, a stretch that the scan finds meets it. -/
theorem Scanned.meets (hn : ∀ term ∈ terms, term ≠ []) {origin : Nat} {spans : List Span}
    (h : Scanned terms text origin spans) {term : List CodePoint} (hm : term ∈ terms) {place : Nat}
    (hp : origin ≤ place) (hs : StandsAt term text place) :
    ∃ span ∈ spans, span.start < place + term.length ∧ place < span.stop := by
  induction h with
  | done hno => exact absurd hs (hno place hp term hm)
  | @next _ start found rest hle hno hfirst _ ih =>
    have hpos := List.length_pos_iff.mpr (hn term hm)
    have hafter : start ≤ place := by
      by_contra hlt
      exact hno place hp (by omega) term hm hs
    by_cases hin : place < start + found.length
    · exact ⟨_, List.mem_cons_self, by simp only; omega, hin⟩
    · obtain ⟨span, hspan, hmeets⟩ := ih (by omega)
      exact ⟨span, List.mem_cons_of_mem _ hspan, hmeets⟩

/-- The marked pieces of a text, by their places; the first piece begins at the given one. -/
def spansFrom : Nat → List Piece → List Span
  | _, [] => []
  | place, piece :: rest =>
    if piece.marked then
      ⟨place, place + piece.text.length⟩ :: spansFrom (place + piece.text.length) rest
    else spansFrom (place + piece.text.length) rest

theorem spansFrom_extend (c : CodePoint) (place : Nat) (pieces : List Piece) :
    spansFrom place (extend c pieces) = spansFrom (place + 1) pieces := by
  have hnew (text : List CodePoint) (rest : List Piece) : spansFrom place (⟨false, text⟩ :: rest) =
      spansFrom (place + text.length) rest := rfl
  unfold extend
  split
  · next text rest =>
    have hold : spansFrom (place + 1) (⟨false, text⟩ :: rest) =
        spansFrom (place + 1 + text.length) rest := rfl
    rw [hnew, hold, List.length_cons]
    congr 1
    omega
  · exact hnew [c] _

theorem spansFrom_eq_nil (place : Nat) (pieces : List Piece) :
    spansFrom place pieces = [] ↔ pieces.any (·.marked) = false := by
  induction pieces generalizing place with
  | nil => simp [spansFrom]
  | cons piece rest ih => cases hp : piece.marked <;> simp [spansFrom, hp, ih]

/-- What the marked pieces are read as. -/
theorem boldFrom_pieces (start place : Nat) (pieces : List Piece) :
    boldFrom start place (pieces.flatMap Piece.signs) = spansFrom place pieces := by
  induction pieces generalizing start place with
  | nil => rfl
  | cons piece rest ih =>
    rw [List.flatMap_cons, spansFrom, Piece.signs]
    split
    · rw [List.cons_append, List.append_assoc, boldFrom, Text.Html.boldFrom_letters,
        List.singleton_append, boldFrom, ih]
    · rw [Text.Html.boldFrom_letters, ih]

/-- The pieces of what is left of a text mark what a scan finds there. -/
theorem scanned_piecesFrom (hn : ∀ term ∈ terms, term ≠ []) {cs : List CodePoint} (skip place : Nat)
    (hcs : text.drop place = cs) :
    Scanned terms text (place + skip) (spansFrom (place + skip) (piecesFrom terms skip cs)) := by
  induction cs generalizing skip place with
  | nil =>
    rw [piecesFrom]
    refine .done fun later hle term hm hs => hn term hm ?_
    have hend : text.drop later = [] := by
      rw [List.drop_eq_nil_iff] at hcs ⊢
      omega
    have hlength := hs.length_le
    rw [hend] at hlength
    exact List.length_eq_zero_iff.mp (Nat.le_zero.mp hlength)
  | cons c cs ih =>
    have hrest : text.drop (place + 1) = cs := by
      rw [← List.drop_drop, hcs]
      rfl
    cases skip with
    | succ skip =>
      have hnext := ih skip (place + 1) hrest
      rw [piecesFrom, show place + (skip + 1) = place + 1 + skip by omega]
      exact hnext
    | zero =>
      rw [piecesFrom, Nat.add_zero]
      cases hm : matchLength? terms (c :: cs) with
      | none =>
        have hno : ∀ term ∈ terms, ¬StandsAt term text place := by
          intro term ht hs
          rw [Text.LetterCase.standsAt_iff, hcs] at hs
          have hsome := matchLength?_isSome.mpr ⟨term, ht, hs⟩
          rw [hm] at hsome
          cases hsome
        simp only
        rw [spansFrom_extend]
        exact (ih 0 (place + 1) hrest).earlier hno
      | some n =>
        obtain ⟨term, hf, rfl⟩ := Option.map_eq_some_iff.mp hm
        have hfirst : FirstAt terms text place term := by
          rw [firstAt_iff, hcs]
          exact hf
        have hpos := List.length_pos_iff.mpr (hn term hfirst.mem)
        have hfits := hfirst.1.length_le
        rw [hcs] at hfits
        have hlength : ((c :: cs).take term.length).length = term.length := by
          rw [List.length_take]
          omega
        have hnext := ih (term.length - 1) (place + 1) hrest
        rw [show place + 1 + (term.length - 1) = place + term.length by omega] at hnext
        simp only [spansFrom, if_true, hlength]
        exact .next (Nat.le_refl _) (fun earlier hge hlt => by omega) hfirst hnext

theorem scanned_pieces (hn : ∀ term ∈ terms, term ≠ []) (text : List CodePoint) :
    Scanned terms text 0 (spansFrom 0 (pieces terms text)) :=
  scanned_piecesFrom hn 0 0 rfl

/-- The characters that have a meaning of their own in search patterns. -/
def patternCharacters : List CodePoint := ("\\.^$*+?()[]\x7b\x7d|-#&~" : Text).toList

theorem isSingle_patternCharacters :
    (patternCharacters.all fun c => isSingle c.toNat) = true := by decide +kernel

theorem exists_opening {pieces : List Piece} (h : pieces.any (·.marked) = true) :
    ("<b>" : Text).toList <:+: pieces.flatMap Piece.html := by
  obtain ⟨piece, hm, hp⟩ := List.any_eq_true.mp h
  obtain ⟨front, rest, rfl⟩ := List.append_of_mem hm
  rw [List.flatMap_append, List.flatMap_cons, Piece.html, if_pos hp]
  exact ⟨front.flatMap Piece.html,
    Text.Escape.html piece.text ++ ("</b>" : Text).toList ++ rest.flatMap Piece.html, by
      simp only [List.append_assoc]⟩

/-- A fragment marks exactly what a scan of the beginning of its value finds. No term stands apart
from these stretches; there is a fragment exactly if there is one of them, and read sign by sign its
tags enclose just these. Pattern characters stand for themselves only. -/
theorem fragment_marks_scanned (terms : List (List CodePoint)) (hn : ∀ term ∈ terms, term ≠ [])
    (value : Text) :
    let text := value.toList.take fragmentLimit
    ∃ spans : List Span,
      (∀ other, Scanned terms text 0 other ↔ other = spans) ∧
      (∀ term ∈ terms, ∀ place, StandsAt term text place →
        ∃ span ∈ spans, span.start < place + term.length ∧ place < span.stop) ∧
      ((fragment? terms value).isSome = true ↔ spans ≠ []) ∧
      (∀ fragment, fragment? terms value = some fragment →
        ("<b>" : Text).toList <:+: fragment.toList ∧
          ∃ signs, signs? fragment.toList = some signs ∧ alternates false signs = true ∧
            letters signs = text ∧ bold signs = spans) ∧
      ∀ c ∈ patternCharacters, ∀ d, alike c d = true ↔ d = c := by
  intro text
  let cut := pieces terms text
  let spans := spansFrom 0 cut
  have hscan : Scanned terms text 0 spans := scanned_pieces hn text
  refine ⟨spans, ?_, ?_, ?_, ?_, ?_⟩
  · intro other
    exact ⟨fun ho => hscan.unique ho, fun ho => ho ▸ hscan⟩
  · intro term hm place hs
    exact hscan.meets hn hm (Nat.zero_le place) hs
  · rw [isSome_fragment? hn, ← any_marked_pieces hn, Ne, spansFrom_eq_nil, Bool.not_eq_false]
  · intro fragment hf
    obtain ⟨hmarked, hshown⟩ := fragment?_eq_some.mp hf
    rw [← hshown]
    exact ⟨exists_opening hmarked, cut.flatMap Piece.signs, signs?_pieces cut,
      alternates_pieces cut, (letters_pieces cut).trans (pieces_text hn text),
      boldFrom_pieces 0 0 cut⟩
  · intro c hc d
    exact Text.LetterCase.alike_of_isSingle (List.all_eq_true.mp isSingle_patternCharacters c hc)

/-- Of two terms that stand at one place the first one of the query is marked; a dot and a star stand
for themselves. -/
theorem fragment_marks_first_term :
    let terms := Query.terms "a AB .*"
    (∀ term ∈ terms, term ≠ []) ∧
      fragment? terms "ab.*xB" = some "<b>a</b>b<b>.*</b>xB" ∧
      ∀ spans, Scanned terms ("ab.*xB" : Text).toList 0 spans ↔ spans = [⟨0, 1⟩, ⟨2, 4⟩] := by
  intro terms
  have hn : ∀ term ∈ terms, term ≠ [] := Query.terms_ne_nil "a AB .*"
  have hf : fragment? terms "ab.*xB" = some "<b>a</b>b<b>.*</b>xB" := by decide
  obtain ⟨spans, hscan, -, -, hread, -⟩ := fragment_marks_scanned terms hn "ab.*xB"
  obtain ⟨-, signs, hsigns, -, -, hbold⟩ := hread _ hf
  refine ⟨hn, hf, ?_⟩
  have hspans : spans = [⟨0, 1⟩, ⟨2, 4⟩] := by
    rw [← hbold, ← Option.some.inj (rfl.symm.trans hsigns)]
    rfl
  rw [← hspans]
  exact hscan

end Marking

end SearchAppliance
