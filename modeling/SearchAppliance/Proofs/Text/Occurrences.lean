import SearchAppliance.Text.Words

namespace SearchAppliance.Text

variable {needle : List CodePoint}

theorem occurrences_cons (c : CodePoint) (cs : List CodePoint) :
    0 < occurrences needle (c :: cs) ↔ needle <+: c :: cs ∨ 0 < occurrences needle cs := by
  rw [← List.isPrefixOf_iff_prefix, occurrences, countFrom]
  by_cases h : needle.isPrefixOf (c :: cs) = true
  · simp [h]
  · simp [h, occurrences]

theorem occurrences_pos_iff (hn : needle ≠ []) (hay : List CodePoint) :
    0 < occurrences needle hay ↔ needle <:+: hay := by
  induction hay with
  | nil => simp [occurrences, countFrom, hn]
  | cons c cs ih => rw [occurrences_cons, ih, List.infix_cons_iff]

/-- The rest of an occurrence that has been counted is passed over. -/
theorem countFrom_append_length (front rest : List CodePoint) :
    countFrom needle front.length (front ++ rest) = countFrom needle 0 rest := by
  induction front with
  | nil => rfl
  | cons c cs ih => exact ih

theorem occurrences_of_prefix (hn : needle ≠ []) (rest : List CodePoint) :
    occurrences needle (needle ++ rest) = occurrences needle rest + 1 := by
  obtain ⟨c, cs, rfl⟩ := List.exists_cons_of_ne_nil hn
  have hprefix : (c :: cs).isPrefixOf (c :: (cs ++ rest)) = true := by
    rw [List.isPrefixOf_iff_prefix]
    exact List.prefix_append (c :: cs) rest
  rw [occurrences, List.cons_append, countFrom, if_pos hprefix]
  exact congrArg (· + 1) (countFrom_append_length cs rest)

theorem occurrences_of_not_prefix {c : CodePoint} {cs : List CodePoint} (h : ¬needle <+: c :: cs) :
    occurrences needle (c :: cs) = occurrences needle cs := by
  rw [occurrences, countFrom, if_neg (by rwa [List.isPrefixOf_iff_prefix])]
  rfl

/-- Counting from the left: nothing is left to count, or the first occurrence is counted and the
others are counted behind it. Before the end of the first occurrence there is no other one. -/
inductive CountedFromLeft (needle : List CodePoint) : List CodePoint → Nat → Prop
  | done {hay : List CodePoint} : ¬needle <:+: hay → CountedFromLeft needle hay 0
  | next {front rest : List CodePoint} {n : Nat} : ¬needle <:+: front ++ needle.dropLast →
      CountedFromLeft needle rest n → CountedFromLeft needle (front ++ (needle ++ rest)) (n + 1)

theorem not_infix_dropLast (hn : needle ≠ []) : ¬needle <:+: needle.dropLast := by
  intro h
  have hle := h.length_le
  have hpos := List.length_pos_iff.mpr hn
  rw [List.length_dropLast] at hle
  omega

/-- A prefix of a text that goes on with the same prefix ends before the last character of it. -/
theorem prefix_dropLast {front rest : List CodePoint} {c : CodePoint}
    (h : needle <+: c :: front ++ (needle ++ rest)) : needle <+: c :: front ++ needle.dropLast := by
  have hwhole : c :: front ++ needle.dropLast <+: c :: front ++ (needle ++ rest) := by
    rw [List.prefix_append_right_inj]
    exact (List.dropLast_prefix needle).trans (List.prefix_append needle rest)
  refine List.prefix_of_prefix_length_le h hwhole ?_
  simp only [List.cons_append, List.length_cons, List.length_append, List.length_dropLast]
  omega

theorem occurrences_of_first (hn : needle ≠ []) {front : List CodePoint} (rest : List CodePoint)
    (h : ¬needle <:+: front ++ needle.dropLast) :
    occurrences needle (front ++ (needle ++ rest)) = occurrences needle rest + 1 := by
  induction front with
  | nil => exact occurrences_of_prefix hn rest
  | cons c front ih =>
    rw [List.cons_append, List.infix_cons_iff, not_or] at h
    have hfirst : ¬needle <+: c :: (front ++ (needle ++ rest)) :=
      fun hp => h.1 (prefix_dropLast hp)
    rw [List.cons_append, occurrences_of_not_prefix hfirst, ih h.2]

theorem exists_first (hn : needle ≠ []) {hay : List CodePoint} (h : needle <:+: hay) :
    ∃ front rest, hay = front ++ (needle ++ rest) ∧ ¬needle <:+: front ++ needle.dropLast := by
  induction hay with
  | nil => exact absurd (List.infix_nil.mp h) hn
  | cons c cs ih =>
    by_cases hp : needle <+: c :: cs
    · obtain ⟨rest, hrest⟩ := hp
      exact ⟨[], rest, hrest.symm, not_infix_dropLast hn⟩
    · obtain ⟨front, rest, rfl, hfirst⟩ := ih ((List.infix_cons_iff.mp h).resolve_left hp)
      refine ⟨c :: front, rest, rfl, ?_⟩
      rw [List.cons_append, List.infix_cons_iff, not_or]
      refine ⟨fun hq => hp (hq.trans ?_), hfirst⟩
      rw [List.prefix_cons_inj, List.prefix_append_right_inj]
      exact (List.dropLast_prefix needle).trans (List.prefix_append needle rest)

/-- The occurrences that are counted are the leftmost ones that do not overlap. -/
theorem countedFromLeft_iff (hn : needle ≠ []) {hay : List CodePoint} {n : Nat} :
    CountedFromLeft needle hay n ↔ occurrences needle hay = n := by
  constructor
  · intro h
    induction h with
    | done hno =>
      rw [← occurrences_pos_iff hn] at hno
      omega
    | next hfirst _ ih => rw [occurrences_of_first hn _ hfirst, ih]
  · rintro rfl
    induction hlen : hay.length using Nat.strongRecOn generalizing hay with
    | _ length ih =>
      by_cases h : needle <:+: hay
      · obtain ⟨front, rest, rfl, hfirst⟩ := exists_first hn h
        rw [occurrences_of_first hn rest hfirst]
        refine .next hfirst (ih rest.length ?_ rfl)
        have hpos := List.length_pos_iff.mpr hn
        simp only [List.length_append] at hlen
        omega
      · have hzero : occurrences needle hay = 0 := by
          rw [← occurrences_pos_iff hn] at h
          omega
        rw [hzero]
        exact .done h

variable {stop : CodePoint}

/-- A prefix without the stop lies before it. -/
theorem prefix_append_stop (hs : stop ∉ needle) (front rest : List CodePoint) :
    needle <+: front ++ stop :: rest ↔ needle <+: front := by
  constructor
  · intro h
    rcases List.prefix_or_prefix_of_prefix h (List.prefix_append front (stop :: rest)) with
      hshort | hlong
    · exact hshort
    · obtain ⟨more, rfl⟩ := hlong
      rw [List.prefix_append_right_inj] at h
      cases more with
      | nil => simp
      | cons d ds =>
        obtain ⟨rfl, -⟩ := List.cons_prefix_cons.mp h
        exact absurd (List.mem_append_right front List.mem_cons_self) hs
  · intro h
    exact h.trans (List.prefix_append front (stop :: rest))

theorem countFrom_append_stop (hn : needle ≠ []) (hs : stop ∉ needle) {skip : Nat}
    (front rest : List CodePoint) (h : skip ≤ front.length) :
    countFrom needle skip (front ++ stop :: rest) =
      countFrom needle skip front + countFrom needle 0 rest := by
  induction front generalizing skip with
  | nil =>
    obtain rfl : skip = 0 := Nat.le_zero.mp h
    have hno : ¬needle <+: stop :: rest := by
      intro hp
      rw [← List.nil_append (stop :: rest), prefix_append_stop hs] at hp
      exact hn (List.prefix_nil.mp hp)
    have hcount : occurrences needle (stop :: rest) = occurrences needle rest :=
      occurrences_of_not_prefix hno
    simpa [occurrences, countFrom] using hcount
  | cons c front ih =>
    cases skip with
    | succ skip => exact ih (Nat.le_of_succ_le_succ h)
    | zero =>
      have hsame : needle.isPrefixOf (c :: (front ++ stop :: rest)) =
          needle.isPrefixOf (c :: front) := by
        rw [Bool.eq_iff_iff, List.isPrefixOf_iff_prefix, List.isPrefixOf_iff_prefix]
        exact prefix_append_stop hs (c :: front) rest
      rw [List.cons_append, countFrom, countFrom, hsame]
      split
      · next hp =>
        have hfit := (List.isPrefixOf_iff_prefix.mp hp).length_le
        rw [List.length_cons] at hfit
        rw [ih (by omega)]
        omega
      · exact ih (Nat.zero_le _)

/-- No occurrence reaches across a character that it does not have. -/
theorem occurrences_append_stop (hn : needle ≠ []) (hs : stop ∉ needle) (front rest : List CodePoint) :
    occurrences needle (front ++ stop :: rest) =
      occurrences needle front + occurrences needle rest :=
  countFrom_append_stop hn hs front rest (Nat.zero_le _)

/-- In texts with a stop between them, occurrences are counted text by text. -/
theorem occurrences_intercalate (hn : needle ≠ []) (hs : stop ∉ needle)
    (texts : List (List CodePoint)) :
    occurrences needle (List.intercalate [stop] texts) =
      (texts.map (occurrences needle)).foldr (· + ·) 0 := by
  induction texts with
  | nil => rfl
  | cons text rest ih =>
    cases rest with
    | nil => simp
    | cons other rest =>
      have hjoin : List.intercalate [stop] (text :: other :: rest) =
          text ++ stop :: List.intercalate [stop] (other :: rest) := by simp
      rw [hjoin, occurrences_append_stop hn hs, ih]
      rfl

end SearchAppliance.Text
