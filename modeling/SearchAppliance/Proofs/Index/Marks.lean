import SearchAppliance.Proofs.Index.Score
import SearchAppliance.Proofs.Text.Html

namespace SearchAppliance.Marking

open Text.Html (Sign signs? alternates letters)

variable {terms : List (List CodePoint)}

theorem extend_text (c : CodePoint) (pieces : List Piece) :
    (extend c pieces).flatMap (·.text) = c :: pieces.flatMap (·.text) := by
  unfold extend
  split <;> rfl

theorem matchLength?_pos (hn : ∀ term ∈ terms, term ≠ []) {text : List CodePoint} {n : Nat}
    (h : matchLength? terms text = some n) : 0 < n := by
  obtain ⟨term, hf, rfl⟩ := Option.map_eq_some_iff.mp h
  exact List.length_pos_iff.mpr (hn term (List.mem_of_find?_eq_some hf))

/-- The pieces of a text hold each of its characters once, but for those that are skipped. -/
theorem piecesFrom_text (hn : ∀ term ∈ terms, term ≠ []) (skip : Nat) (text : List CodePoint) :
    (piecesFrom terms skip text).flatMap (·.text) = text.drop skip := by
  induction text generalizing skip with
  | nil => simp [piecesFrom]
  | cons c cs ih =>
    cases skip with
    | succ skip => exact ih skip
    | zero =>
      rw [piecesFrom]
      cases hm : matchLength? terms (c :: cs) with
      | none =>
        simp only
        rw [extend_text, ih]
        rfl
      | some n =>
        have hpos := matchLength?_pos hn hm
        have hdrop : cs.drop (n - 1) = (c :: cs).drop n := by
          rw [← List.drop_succ_cons, Nat.sub_add_cancel hpos]
        simp only [List.flatMap_cons]
        rw [ih, hdrop, List.take_append_drop]
        rfl

theorem pieces_text (hn : ∀ term ∈ terms, term ≠ []) (text : List CodePoint) :
    (pieces terms text).flatMap (·.text) = text :=
  piecesFrom_text hn 0 text

/-- A piece as it is read: its characters, between tags if it is marked. -/
def Piece.signs (piece : Piece) : List Sign :=
  if piece.marked then .opening :: (piece.text.map .letter ++ [.closing])
  else piece.text.map .letter

theorem Piece.signs?_html (piece : Piece) (rest : List CodePoint) :
    signs? (piece.html ++ rest) = (signs? rest).map (piece.signs ++ ·) := by
  obtain ⟨marked, text⟩ := piece
  cases marked with
  | false => exact Text.Html.signs?_html text rest
  | true =>
    have hread : signs? (.char '<' :: .char 'b' :: .char '>' ::
        (Text.Escape.html text ++ .char '<' :: .char '/' :: .char 'b' :: .char '>' :: rest)) =
          (signs? rest).map fun signs =>
            .opening :: (text.map .letter ++ (.closing :: signs)) := by
      rw [signs?, Text.Html.signs?_html, signs?, Option.map_map, Option.map_map]
      rfl
    simpa [html, signs] using hread

theorem signs?_pieces (pieces : List Piece) :
    signs? (pieces.flatMap Piece.html) = some (pieces.flatMap Piece.signs) := by
  induction pieces with
  | nil => rfl
  | cons piece rest ih =>
    rw [List.flatMap_cons, Piece.signs?_html, ih]
    rfl

theorem alternates_pieces (pieces : List Piece) :
    alternates false (pieces.flatMap Piece.signs) = true := by
  induction pieces with
  | nil => rfl
  | cons piece rest ih =>
    rw [List.flatMap_cons, Piece.signs]
    split
    · rw [List.cons_append, List.append_assoc, alternates, Text.Html.alternates_letters]
      simpa [alternates] using ih
    · rw [Text.Html.alternates_letters]
      exact ih

theorem letters_pieces (pieces : List Piece) :
    letters (pieces.flatMap Piece.signs) = pieces.flatMap (·.text) := by
  induction pieces with
  | nil => rfl
  | cons piece rest ih =>
    have hpiece : letters piece.signs = piece.text := by
      unfold Piece.signs
      split
      · have hmarked : letters (.opening :: (piece.text.map .letter ++ [.closing])) =
            letters (piece.text.map .letter ++ [.closing]) := rfl
        rw [hmarked, Text.Html.letters_append, Text.Html.letters_map]
        exact List.append_nil _
      · exact Text.Html.letters_map piece.text
    rw [List.flatMap_cons, List.flatMap_cons, Text.Html.letters_append, hpiece, ih]

theorem fragment?_eq_some {value fragment : Text} :
    fragment? terms value = some fragment ↔
      (pieces terms (value.toList.take fragmentLimit)).any (·.marked) = true ∧
        (pieces terms (value.toList.take fragmentLimit)).flatMap Piece.html = fragment.toList := by
  rw [fragment?, Option.ite_none_right_eq_some, Option.some.injEq, ← Text.toList_inj,
    Text.toList_ofList]

/-- Is a fragment read as the beginning of a value, with tags that begin and end in turn? -/
def ReadsAs (value fragment : Text) : Prop :=
  ∃ signs, signs? fragment.toList = some signs ∧ alternates false signs = true ∧
    letters signs = value.toList.take fragmentLimit

theorem readsAs_of_fragment (hn : ∀ term ∈ terms, term ≠ []) {value fragment : Text}
    (h : fragment? terms value = some fragment) : ReadsAs value fragment := by
  let cut := pieces terms (value.toList.take fragmentLimit)
  obtain ⟨-, hfragment⟩ := fragment?_eq_some.mp h
  refine ⟨cut.flatMap Piece.signs, ?_, alternates_pieces cut, ?_⟩
  · rw [← hfragment, signs?_pieces]
  · rw [letters_pieces, pieces_text hn]

/-- What a partial function gives for the elements of a list comes from some of them, in order. -/
theorem exists_sublist_of_filterMap {α β : Type} (f : α → Option β) (xs : List α) :
    ∃ ys, ys.Sublist xs ∧ List.Forall₂ (fun x y => f x = some y) ys (xs.filterMap f) := by
  induction xs with
  | nil => exact ⟨[], List.Sublist.refl _, .nil⟩
  | cons x xs ih =>
    obtain ⟨ys, hys, hall⟩ := ih
    rw [List.filterMap_cons]
    cases hx : f x with
    | none => exact ⟨ys, hys.cons x, hall⟩
    | some y => exact ⟨x :: ys, hys.cons_cons x, .cons hx hall⟩

/-- Marking loses nothing and injects nothing: a fragment reads back, sign by sign, as the first 240
characters of its value. -/
theorem highlight_reads_back (query : Text) (fields : Fields) (name : Text)
    (fragments : List Text) (h : (name, fragments) ∈ highlight (Query.terms query) fields) :
    name ∈ Field.highlighted.map (Text.ofString ·.name) ∧
      ∃ values, values.Sublist (fields.values name) ∧
        List.Forall₂ (fun value fragment =>
          fragment? (Query.terms query) value = some fragment ∧ ReadsAs value fragment)
          values fragments := by
  obtain ⟨hentry, -⟩ := List.mem_filter.mp h
  obtain ⟨field, hfield, heq⟩ := List.mem_map.mp hentry
  obtain ⟨rfl, rfl⟩ := Prod.mk.inj heq
  obtain ⟨values, hsub, hall⟩ :=
    exists_sublist_of_filterMap (fragment? (Query.terms query)) (fields.values field.name)
  refine ⟨List.mem_map_of_mem hfield, values, hsub, hall.imp ?_⟩
  intro value fragment hf
  exact ⟨hf, readsAs_of_fragment (Query.terms_ne_nil query) hf⟩

/-- Terms that are markup, entity names and tag names themselves, next to each other and at both
ends of a value. -/
theorem highlight_markup :
    let fields : Fields := [("id", ["a"]), ("text_t", ["no match", "<b>amp;&amp</b>", "&"])]
    let fragments : List Text := ["&lt;<b>b</b>&gt;<b>amp</b>;<b>&amp;</b><b>amp</b>&lt;/<b>b</b>&gt;",
      "<b>&amp;</b>"]
    (("text_t" : Text), fragments) ∈ highlight (Query.terms "& AMP b") fields ∧
      ("text_t" : Text) ∈ Field.highlighted.map (Text.ofString ·.name) ∧
        ∃ values, values.Sublist (fields.values "text_t") ∧
          List.Forall₂ (fun value fragment =>
            fragment? (Query.terms "& AMP b") value = some fragment ∧ ReadsAs value fragment)
            values fragments := by
  intro fields fragments
  have h : (("text_t" : Text), fragments) ∈ highlight (Query.terms "& AMP b") fields := by decide
  exact ⟨h, highlight_reads_back "& AMP b" fields "text_t" fragments h⟩

end SearchAppliance.Marking
