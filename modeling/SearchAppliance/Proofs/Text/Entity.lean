import SearchAppliance.Proofs.Text.EntityCode

namespace SearchAppliance.Text.Escape

/-- The text with the entities of markup characters replaced by these, in one pass. -/
def unescape : List CodePoint → List CodePoint
  | .char '&' :: .char 'a' :: .char 'm' :: .char 'p' :: .char ';' :: cs => '&' :: unescape cs
  | .char '&' :: .char 'l' :: .char 't' :: .char ';' :: cs => '<' :: unescape cs
  | .char '&' :: .char 'g' :: .char 't' :: .char ';' :: cs => '>' :: unescape cs
  | .char '&' :: .char 'q' :: .char 'u' :: .char 'o' :: .char 't' :: .char ';' :: cs =>
    '"' :: unescape cs
  | c :: cs => c :: unescape cs
  | [] => []

theorem unescape_eq_undo (cs : List CodePoint) : unescape cs = attrTable.undo cs := by
  induction cs using unescape.induct with
  | case1 cs ih => simp [unescape, EntityTable.undo, attrTable, textTable, ih]
  | case2 cs ih => simp [unescape, EntityTable.undo, attrTable, textTable, ih]
  | case3 cs ih => simp [unescape, EntityTable.undo, attrTable, textTable, ih]
  | case4 cs ih => simp [unescape, EntityTable.undo, attrTable, textTable, ih]
  | case5 c cs hamp hlt hgt hquot ih =>
    have hfind : attrTable.find? (fun entry => entry.2.toList.isPrefixOf (c :: cs)) = none := by
      rw [List.find?_eq_none]
      intro entry he hp
      obtain ⟨rest, hrest⟩ := List.isPrefixOf_iff_prefix.mp hp
      simp only [attrTable, textTable, List.cons_append, List.nil_append, List.mem_cons,
        List.not_mem_nil, or_false] at he
      rcases he with rfl | rfl | rfl | rfl
      · exact hamp rest (List.cons.inj hrest).1.symm (List.cons.inj hrest).2.symm
      · exact hgt rest (List.cons.inj hrest).1.symm (List.cons.inj hrest).2.symm
      · exact hlt rest (List.cons.inj hrest).1.symm (List.cons.inj hrest).2.symm
      · exact hquot rest (List.cons.inj hrest).1.symm (List.cons.inj hrest).2.symm
    rw [unescape, EntityTable.undo, hfind, ih]
    · exact hamp
    · exact hlt
    · exact hgt
    · exact hquot
  | case6 => simp [unescape, EntityTable.undo]

theorem charData_eq (cs : List CodePoint) : charData cs = cs.flatMap textTable.code := by
  rw [← chain_textTable, EntityTable.chain_eq sound_textTable.ordered]

theorem attrValue_eq (cs : List CodePoint) : attrValue cs = cs.flatMap attrTable.code := by
  rw [← chain_attrTable, EntityTable.chain_eq sound_attrTable.ordered]

/-- Character data is read back exactly. -/
theorem unescape_charData (cs : List CodePoint) : unescape (charData cs) = cs := by
  rw [unescape_eq_undo, charData_eq]
  exact EntityTable.undo_encoded sound_attrTable (List.subset_append_left _ _)
    sound_textTable.ampersand cs

/-- The value of an attribute is read back exactly. -/
theorem unescape_attrValue (cs : List CodePoint) : unescape (attrValue cs) = cs := by
  rw [unescape_eq_undo, attrValue_eq]
  exact EntityTable.undo_encoded sound_attrTable (List.Subset.refl _) sound_attrTable.ampersand cs

theorem not_mem_charData {d : CodePoint} (hd : d = '<' ∨ d = '>') (cs : List CodePoint) :
    d ∉ charData cs := by
  have hentity : d ∈ textTable.map (·.1) ∧ d ≠ '&' := by
    rcases hd with rfl | rfl <;> decide
  rw [charData_eq]
  exact EntityTable.not_mem_encoded sound_textTable hentity.1 hentity.2 cs

theorem not_mem_attrValue {d : CodePoint} (hd : d = '<' ∨ d = '>' ∨ d = '"')
    (cs : List CodePoint) : d ∉ attrValue cs := by
  have hentity : d ∈ attrTable.map (·.1) ∧ d ≠ '&' := by
    rcases hd with rfl | rfl | rfl <;> decide
  rw [attrValue_eq]
  exact EntityTable.not_mem_encoded sound_attrTable hentity.1 hentity.2 cs

theorem charData_plain {cs : List CodePoint} (ha : .char '&' ∉ cs) (hl : .char '<' ∉ cs)
    (hg : .char '>' ∉ cs) : charData cs = cs := by
  rw [charData_eq]
  apply EntityTable.encoded_plain
  simp [textTable, ha, hl, hg]

theorem attrValue_plain {cs : List CodePoint} (ha : .char '&' ∉ cs) (hl : .char '<' ∉ cs)
    (hg : .char '>' ∉ cs) (hq : .char '"' ∉ cs) : attrValue cs = cs := by
  rw [attrValue_eq]
  apply EntityTable.encoded_plain
  simp [attrTable, textTable, ha, hl, hg, hq]

theorem replace_singleton {c d : CodePoint} (h : d ≠ c) (text : Text) :
    replace c text [d] = [d] := by
  simp [replace, h]

end SearchAppliance.Text.Escape
