import SearchAppliance.Proofs.Text.Entity

namespace SearchAppliance.Text.Html

/-- What a place of a bold text says: a stretch begins or ends there, or a character stands there, as
it is or as an entity. -/
inductive Sign where
  | opening
  | closing
  | letter (c : CodePoint)
  deriving DecidableEq, Repr

/-- Reads a text sign by sign. Brackets belong to bold tags only, and an ampersand begins an entity. -/
def signs? : List CodePoint → Option (List Sign)
  | [] => some []
  | .char '<' :: cs =>
    match cs with
    | .char 'b' :: .char '>' :: cs => (signs? cs).map (.opening :: ·)
    | .char '/' :: .char 'b' :: .char '>' :: cs => (signs? cs).map (.closing :: ·)
    | _ => none
  | .char '>' :: _ => none
  | .char '&' :: cs =>
    match cs with
    | .char 'a' :: .char 'm' :: .char 'p' :: .char ';' :: cs => (signs? cs).map (.letter '&' :: ·)
    | .char 'l' :: .char 't' :: .char ';' :: cs => (signs? cs).map (.letter '<' :: ·)
    | .char 'g' :: .char 't' :: .char ';' :: cs => (signs? cs).map (.letter '>' :: ·)
    | .char 'q' :: .char 'u' :: .char 'o' :: .char 't' :: .char ';' :: cs =>
      (signs? cs).map (.letter '"' :: ·)
    | .char '#' :: .char 'x' :: .char '2' :: .char '7' :: .char ';' :: cs =>
      (signs? cs).map (.letter '\x27' :: ·)
    | _ => none
  | c :: cs => (signs? cs).map (.letter c :: ·)

/-- Do stretches begin and end in turn, none inside another one, and does each that begins end? The
first argument says whether one has begun. -/
def alternates : Bool → List Sign → Bool
  | begun, [] => !begun
  | begun, .letter _ :: signs => alternates begun signs
  | begun, .opening :: signs => !begun && alternates true signs
  | begun, .closing :: signs => begun && alternates false signs

/-- The characters that stand in a text, the tags left out. -/
def letters (signs : List Sign) : List CodePoint :=
  signs.filterMap fun
    | .letter c => some c
    | _ => none

theorem letters_append (front rest : List Sign) :
    letters (front ++ rest) = letters front ++ letters rest :=
  List.filterMap_append

theorem letters_map (cs : List CodePoint) : letters (cs.map .letter) = cs := by
  rw [letters, List.filterMap_map]
  exact List.filterMap_some

theorem alternates_letters (begun : Bool) (cs : List CodePoint) (signs : List Sign) :
    alternates begun (cs.map .letter ++ signs) = alternates begun signs := by
  induction cs with
  | nil => rfl
  | cons c cs ih => exact ih

theorem signs?_cons {c : CodePoint} (hl : c ≠ '<') (hg : c ≠ '>') (ha : c ≠ '&') (cs : List CodePoint) :
    signs? (c :: cs) = (signs? cs).map (.letter c :: ·) := by
  rw [signs?]
  · exact hl
  · exact hg
  · exact ha

theorem html_singleton (c : CodePoint) :
    c = '&' ∨ c = '<' ∨ c = '>' ∨ c = '"' ∨ c = '\x27' ∨
      c ≠ '<' ∧ c ≠ '>' ∧ c ≠ '&' ∧ Escape.html [c] = [c] := by
  by_cases ha : c = '&'
  · exact Or.inl ha
  by_cases hl : c = '<'
  · exact Or.inr (Or.inl hl)
  by_cases hg : c = '>'
  · exact Or.inr (Or.inr (Or.inl hg))
  by_cases hq : c = '"'
  · exact Or.inr (Or.inr (Or.inr (Or.inl hq)))
  by_cases hs : c = '\x27'
  · exact Or.inr (Or.inr (Or.inr (Or.inr (Or.inl hs))))
  · refine Or.inr (Or.inr (Or.inr (Or.inr (Or.inr ⟨hl, hg, ha, ?_⟩))))
    simp only [Escape.html, Escape.replace_singleton ha, Escape.replace_singleton hl,
      Escape.replace_singleton hg, Escape.replace_singleton hq, Escape.replace_singleton hs]

theorem signs?_html_singleton (c : CodePoint) (rest : List CodePoint) :
    signs? (Escape.html [c] ++ rest) = (signs? rest).map (.letter c :: ·) := by
  rcases html_singleton c with rfl | rfl | rfl | rfl | rfl | ⟨hl, hg, ha, h⟩
  · rfl
  · rfl
  · rfl
  · rfl
  · rfl
  · rw [h]
    exact signs?_cons hl hg ha rest

/-- Escaped text is read as its characters, whatever follows. -/
theorem signs?_html (cs rest : List CodePoint) :
    signs? (Escape.html cs ++ rest) = (signs? rest).map (cs.map .letter ++ ·) := by
  induction cs with
  | nil =>
    have hnil : Escape.html [] = [] := rfl
    simp [hnil]
  | cons c cs ih =>
    have hsplit : Escape.html (c :: cs) = Escape.html [c] ++ Escape.html cs :=
      Escape.html_append [c] cs
    rw [hsplit, List.append_assoc, signs?_html_singleton, ih, Option.map_map]
    rfl

/-- The tags that a bold text may have. -/
def boldTags : List (List CodePoint) := [("<b>" : Text).toList, ("</b>" : Text).toList]

/-- The entities that a bold text may have. -/
def entities : List (List CodePoint) :=
  [("&amp;" : Text).toList, ("&lt;" : Text).toList, ("&gt;" : Text).toList,
    ("&quot;" : Text).toList, ("&#x27;" : Text).toList]

/-- Has a text no brackets but those of bold tags, and no ampersand but at the start of an entity? -/
def Safe (text : List CodePoint) : Prop :=
  ∀ place < text.length,
    (text[place]? = some '<' → ∃ tag ∈ boldTags, tag <+: text.drop place) ∧
      (text[place]? = some '>' → ∃ tag ∈ boldTags, tag <:+ text.take (place + 1)) ∧
      (text[place]? = some '&' → ∃ entity ∈ entities, entity <+: text.drop place)

instance (text : List CodePoint) : Decidable (Safe text) :=
  inferInstanceAs (Decidable (∀ place < text.length, _))

theorem Safe.append {xs ys : List CodePoint} (hx : Safe xs) (hy : Safe ys) : Safe (xs ++ ys) := by
  intro place hlt
  by_cases h : place < xs.length
  · have hget : (xs ++ ys)[place]? = xs[place]? := List.getElem?_append_left h
    have hdrop : (xs ++ ys).drop place = xs.drop place ++ ys :=
      List.drop_append_of_le_length (Nat.le_of_lt h)
    have htake : (xs ++ ys).take (place + 1) = xs.take (place + 1) :=
      List.take_append_of_le_length h
    obtain ⟨hl, hg, ha⟩ := hx place h
    rw [hget, hdrop, htake]
    have hbefore {words : List (List CodePoint)} : (∃ word ∈ words, word <+: xs.drop place) →
        ∃ word ∈ words, word <+: xs.drop place ++ ys :=
      fun ⟨word, hm, hp⟩ => ⟨word, hm, hp.trans (List.prefix_append _ _)⟩
    exact ⟨fun hc => hbefore (hl hc), hg, fun hc => hbefore (ha hc)⟩
  · have hle : xs.length ≤ place := Nat.le_of_not_lt h
    have hget : (xs ++ ys)[place]? = ys[place - xs.length]? := List.getElem?_append_right hle
    have hdrop : (xs ++ ys).drop place = ys.drop (place - xs.length) := by
      rw [List.drop_append, List.drop_of_length_le hle, List.nil_append]
    have htake : (xs ++ ys).take (place + 1) = xs ++ ys.take (place - xs.length + 1) := by
      rw [List.take_append, List.take_of_length_le (by omega)]
      congr 2
      omega
    obtain ⟨hl, hg, ha⟩ := hy (place - xs.length) (by rw [List.length_append] at hlt; omega)
    rw [hget, hdrop, htake]
    refine ⟨hl, fun hc => ?_, ha⟩
    obtain ⟨tag, hm, hs⟩ := hg hc
    exact ⟨tag, hm, hs.trans (List.suffix_append _ _)⟩

theorem safe_singleton {c : CodePoint} (hl : c ≠ '<') (hg : c ≠ '>') (ha : c ≠ '&') : Safe [c] := by
  intro place hlt
  obtain rfl : place = 0 := Nat.lt_one_iff.mp hlt
  simp [hl, hg, ha]

/-- A text that can be read is safe. -/
theorem safe_of_isSome {text : List CodePoint} (h : (signs? text).isSome = true) : Safe text := by
  have hread (front : List CodePoint) (sign : Sign) {rest : List CodePoint} (hf : Safe front)
      (hr : (signs? rest).isSome = true → Safe rest)
      (hs : ((signs? rest).map (sign :: ·)).isSome = true) : Safe (front ++ rest) := by
    rw [Option.isSome_map] at hs
    exact hf.append (hr hs)
  fun_induction signs? text with
  | case1 => decide
  | case2 cs ih => exact hread ("<b>" : Text).toList .opening (by decide) ih h
  | case3 cs ih => exact hread ("</b>" : Text).toList .closing (by decide) ih h
  | case6 cs ih => exact hread ("&amp;" : Text).toList (.letter '&') (by decide) ih h
  | case7 cs ih => exact hread ("&lt;" : Text).toList (.letter '<') (by decide) ih h
  | case8 cs ih => exact hread ("&gt;" : Text).toList (.letter '>') (by decide) ih h
  | case9 cs ih => exact hread ("&quot;" : Text).toList (.letter '"') (by decide) ih h
  | case10 cs ih => exact hread ("&#x27;" : Text).toList (.letter '\x27') (by decide) ih h
  | case12 c cs hl hg ha ih => exact hread [c] (.letter c) (safe_singleton hl hg ha) ih h
  | case4 | case5 | case11 => cases h

end SearchAppliance.Text.Html
