import Mathlib.Data.List.Basic
import SearchAppliance.Text.Escape

namespace SearchAppliance.Text.Escape

/-- Characters, each with the entity that stands for it. -/
abbrev EntityTable := List (CodePoint × Text)

namespace EntityTable

/-- What a character is written as. -/
def code (table : EntityTable) (c : CodePoint) : List CodePoint :=
  match table.find? (·.1 = c) with
  | some (_, entity) => entity.toList
  | none => [c]

/-- The characters of the table replaced one after another, each through the whole text. -/
def chain (table : EntityTable) (cs : List CodePoint) : List CodePoint :=
  table.foldl (fun cs entry => replace entry.1 entry.2 cs) cs

/-- One pass through a text: an entity of the table is read as its character, and any other character
as itself. -/
def undo (table : EntityTable) : List CodePoint → List CodePoint
  | [] => []
  | c :: cs =>
    match table.find? fun entry => entry.2.toList.isPrefixOf (c :: cs) with
    | some (d, entity) => d :: undo table (cs.drop (entity.toList.length - 1))
    | none => c :: undo table cs
termination_by cs => cs.length
decreasing_by all_goals (simp only [List.length_cons, List.length_drop]; omega)

/-- Does a table have an entity for the ampersand? -/
def HasAmpersand (table : EntityTable) : Prop := ∃ entry ∈ table, entry.1 = '&'

/-- What makes a table a code that can be undone. -/
structure Sound (table : EntityTable) : Prop where
  /-- No replacement meets what an earlier one has written. -/
  ordered : table.Pairwise fun entry later => entry.1 ≠ later.1 ∧ later.1 ∉ entry.2.toList
  ampersand : table.HasAmpersand
  begins : ∀ entry ∈ table, entry.2.toList.head? = some (.char '&')
  /-- Behind its beginning an entity has no character of the table. -/
  plain : ∀ entry ∈ table, ∀ other ∈ table, other.1 ∉ entry.2.toList.tail
  prefixFree : ∀ entry ∈ table, ∀ other ∈ table,
    entry.2.toList <+: other.2.toList → entry = other

variable {table : EntityTable}

theorem code_cases (table : EntityTable) (c : CodePoint) :
    (∃ entity, (c, entity) ∈ table ∧ table.code c = entity.toList) ∨
      (∀ entry ∈ table, entry.1 ≠ c) ∧ table.code c = [c] := by
  unfold code
  cases h : table.find? (·.1 = c) with
  | none =>
    right
    have hnone := List.find?_eq_none.mp h
    exact ⟨by simpa using hnone, rfl⟩
  | some entry =>
    left
    obtain ⟨d, entity⟩ := entry
    have hd : d = c := by simpa using List.find?_some h
    subst d
    exact ⟨entity, List.mem_of_find?_eq_some h, rfl⟩

theorem code_of_not_mem {c : CodePoint} (h : ∀ entry ∈ table, entry.1 ≠ c) : table.code c = [c] := by
  rcases code_cases table c with ⟨entity, hm, -⟩ | ⟨-, hc⟩
  · exact absurd rfl (h _ hm)
  · exact hc

theorem code_cons (entry : CodePoint × Text) (rest : EntityTable) (c : CodePoint) :
    code (entry :: rest) c = if c = entry.1 then entry.2.toList else code rest c := by
  by_cases h : c = entry.1
  · simp [code, h]
  · have hne : entry.1 ≠ c := fun he => h he.symm
    simp [code, h, hne]

/-- The chain of replacements is a code of single characters. -/
theorem chain_eq
    (h : table.Pairwise fun entry later => entry.1 ≠ later.1 ∧ later.1 ∉ entry.2.toList)
    (cs : List CodePoint) : table.chain cs = cs.flatMap table.code := by
  induction table generalizing cs with
  | nil =>
    have hcode : code [] = fun c => [c] := rfl
    simp [chain, hcode]
  | cons entry rest ih =>
    obtain ⟨hlater, hrest⟩ := List.pairwise_cons.mp h
    have hentity : entry.2.toList.flatMap (code rest) = entry.2.toList := by
      have hsame : ∀ c ∈ entry.2.toList, code rest c = [c] := by
        intro c hc
        apply code_of_not_mem
        rintro later hl rfl
        exact (hlater later hl).2 hc
      rw [List.flatMap_congr hsame]
      simp
    have hstep : chain (entry :: rest) cs = chain rest (replace entry.1 entry.2 cs) := rfl
    rw [hstep, ih hrest, replace, List.flatMap_assoc]
    congr 1
    funext c
    rw [code_cons]
    by_cases hc : c = entry.1
    · simp [hc, hentity]
    · simp [hc]

/-- With the ampersand last, the replacements meet what they have written. -/
example : chain [('<', "&lt;"), ('&', "&amp;")] [.char '<'] = ("&amp;lt;" : Text).toList := by decide

theorem entity_begins (h : table.Sound) {entry : CodePoint × Text} (he : entry ∈ table) :
    ∃ name, entry.2.toList = .char '&' :: name ∧ ∀ other ∈ table, other.1 ∉ name := by
  have hbegins := h.begins entry he
  have hplain := h.plain entry he
  cases hl : entry.2.toList with
  | nil => simp [hl] at hbegins
  | cons c name =>
    have hc : c = '&' := by simpa [hl] using hbegins
    subst c
    exact ⟨name, rfl, by simpa [hl] using hplain⟩

theorem undo_entity (h : table.Sound) {c : CodePoint} {entity : Text} (he : (c, entity) ∈ table)
    (rest : List CodePoint) : table.undo (entity.toList ++ rest) = c :: table.undo rest := by
  obtain ⟨name, hname, -⟩ := entity_begins h he
  change entity.toList = _ at hname
  have hfind : table.find? (fun entry => entry.2.toList.isPrefixOf (entity.toList ++ rest)) =
      some (c, entity) := by
    cases hf : table.find? (fun entry => entry.2.toList.isPrefixOf (entity.toList ++ rest)) with
    | none =>
      have hnone := List.find?_eq_none.mp hf (c, entity) he
      simp at hnone
    | some entry =>
      have hm := List.mem_of_find?_eq_some hf
      have hp : entry.2.toList <+: entity.toList ++ rest := by simpa using List.find?_some hf
      have hown : entity.toList <+: entity.toList ++ rest := List.prefix_append _ _
      rcases List.prefix_or_prefix_of_prefix hp hown with hle | hle
      · rw [h.prefixFree entry hm _ he hle]
      · rw [h.prefixFree _ he entry hm hle]
  rw [hname, List.cons_append] at hfind ⊢
  rw [undo, hfind]
  simp [hname]

theorem undo_plain (h : table.Sound) {c : CodePoint} (hc : c ≠ '&') (rest : List CodePoint) :
    table.undo (c :: rest) = c :: table.undo rest := by
  have hfind : table.find? (fun entry => entry.2.toList.isPrefixOf (c :: rest)) = none := by
    apply List.find?_eq_none.mpr
    intro entry he
    obtain ⟨name, hname, -⟩ := entity_begins h he
    simp [hname, hc.symm]
  rw [undo, hfind]

/-- A character without an entity is no ampersand. -/
theorem HasAmpersand.ne (ha : table.HasAmpersand) {c : CodePoint}
    (hc : ∀ entry ∈ table, entry.1 ≠ c) : c ≠ '&' := by
  obtain ⟨entry, he, hkey⟩ := ha
  rw [← hkey]
  exact (hc entry he).symm

variable {part : EntityTable}

theorem undo_code (h : table.Sound) (hpart : part ⊆ table) (ha : part.HasAmpersand) (c : CodePoint)
    (rest : List CodePoint) : table.undo (part.code c ++ rest) = c :: table.undo rest := by
  rcases code_cases part c with ⟨entity, hm, hc⟩ | ⟨hnot, hc⟩
  · rw [hc]
    exact undo_entity h (hpart hm) rest
  · rw [hc]
    exact undo_plain h (ha.ne hnot) rest

/-- What is written with a table is read back exactly, also by a larger table. -/
theorem undo_encoded (h : table.Sound) (hpart : part ⊆ table) (ha : part.HasAmpersand)
    (cs : List CodePoint) : table.undo (cs.flatMap part.code) = cs := by
  induction cs with
  | nil => simp [undo]
  | cons c cs ih => rw [List.flatMap_cons, undo_code h hpart ha, ih]

/-- A text without characters of the table is written as it is. -/
theorem encoded_plain {cs : List CodePoint} (h : ∀ entry ∈ table, entry.1 ∉ cs) :
    cs.flatMap table.code = cs := by
  have hsame : ∀ c ∈ cs, table.code c = [c] := by
    intro c hc
    apply code_of_not_mem
    rintro entry he rfl
    exact h entry he hc
  rw [List.flatMap_congr hsame]
  simp

/-- Of the characters that have an entity only the ampersand is written at all. -/
theorem not_mem_encoded (h : table.Sound) {c : CodePoint} (hc : c ∈ table.map (·.1))
    (hne : c ≠ '&') (cs : List CodePoint) : c ∉ cs.flatMap table.code := by
  obtain ⟨entry, he, rfl⟩ := List.mem_map.mp hc
  intro hm
  obtain ⟨d, -, hm⟩ := List.mem_flatMap.mp hm
  rcases code_cases table d with ⟨entity, hentity, hcode⟩ | ⟨hnot, hcode⟩
  · obtain ⟨name, hname, hplain⟩ := entity_begins h hentity
    rw [hcode, hname, List.mem_cons] at hm
    exact hm.elim hne (hplain entry he)
  · rw [hcode, List.mem_singleton] at hm
    exact hnot entry he hm

theorem code_ampersand (h : table.Sound) {c : CodePoint} {front rest : List CodePoint}
    (hc : table.code c = front ++ .char '&' :: rest) :
    ∃ entry ∈ table, entry.2.toList = .char '&' :: rest := by
  rcases code_cases table c with ⟨entity, hentity, hcode⟩ | ⟨hnot, hcode⟩
  · obtain ⟨name, hname, hplain⟩ := entity_begins h hentity
    obtain ⟨entry, he, hkey⟩ := h.ampersand
    rw [hcode, hname] at hc
    cases front with
    | nil => exact ⟨_, hentity, hname.trans hc⟩
    | cons d front =>
      -- A second ampersand in an entity: there is none.
      have hinside : name = front ++ .char '&' :: rest := (List.cons.inj hc).2
      have hnone := hplain entry he
      rw [hkey, hinside] at hnone
      simp at hnone
  · have hm : .char '&' ∈ table.code c := by simp [hc]
    rw [hcode, List.mem_singleton] at hm
    exact absurd hm.symm (h.ampersand.ne hnot)

/-- An ampersand is written only as the beginning of an entity. -/
theorem ampersand_encoded (h : table.Sound) {cs front rest : List CodePoint}
    (hs : cs.flatMap table.code = front ++ .char '&' :: rest) :
    ∃ entry ∈ table, entry.2.toList <+: .char '&' :: rest := by
  induction cs generalizing front with
  | nil => simp at hs
  | cons c cs ih =>
    rw [List.flatMap_cons] at hs
    rcases List.append_eq_append_iff.mp hs with ⟨more, -, hmore⟩ | ⟨more, hcode, hmore⟩
    · exact ih hmore
    · cases more with
      | nil =>
        have hbegins : cs.flatMap table.code = [] ++ .char '&' :: rest := hmore.symm
        exact ih hbegins
      | cons d more =>
        obtain ⟨rfl, hrest⟩ := List.cons.inj hmore
        obtain ⟨entry, he, hentity⟩ := code_ampersand h hcode
        refine ⟨entry, he, ?_⟩
        rw [hentity, hrest]
        exact List.prefix_append (.char '&' :: more) _

end EntityTable

/-- Is an escape the code of a table? -/
structure Encodes (table : EntityTable) (escape : Text → Text) : Prop where
  /-- Each character is written on its own, whatever stands around it. -/
  byCharacter : ∀ v, (escape v).toList = v.toList.flatMap table.code
  append : ∀ v w, escape (v ++ w) = escape v ++ escape w
  injective : Function.Injective escape
  undone : ∀ v, table.undo (escape v).toList = v.toList
  /-- Of the characters that have an entity only the ampersand is ever written. -/
  absent : ∀ v, ∀ entry ∈ table, entry.1 ≠ '&' → entry.1 ∉ (escape v).toList
  /-- An ampersand is written only as the beginning of an entity. -/
  ampersand : ∀ v front rest, (escape v).toList = front ++ .char '&' :: rest →
    ∃ entry ∈ table, entry.2.toList <+: .char '&' :: rest

theorem encodes_of_sound {table : EntityTable} {escape : Text → Text} (h : table.Sound)
    (he : ∀ v, (escape v).toList = table.chain v.toList) : Encodes table escape := by
  have hcode (v : Text) : (escape v).toList = v.toList.flatMap table.code := by
    rw [he, EntityTable.chain_eq h.ordered]
  have hundo (v : Text) : table.undo (escape v).toList = v.toList := by
    rw [hcode, EntityTable.undo_encoded h (List.Subset.refl table) h.ampersand]
  constructor
  · exact hcode
  · intro v w
    apply Text.toList_inj.mp
    rw [hcode, Text.toList_append, List.flatMap_append, Text.toList_append, hcode, hcode]
  · intro v w hvw
    apply Text.toList_inj.mp
    rw [← hundo v, ← hundo w, hvw]
  · exact hundo
  · intro v entry hm hne
    rw [hcode]
    exact EntityTable.not_mem_encoded h (List.mem_map_of_mem hm) hne v.toList
  · intro v front rest hv
    rw [hcode] at hv
    exact EntityTable.ampersand_encoded h hv

/-- The entities of character data, in the order of the replacements. -/
def textTable : EntityTable := [('&', "&amp;"), ('>', "&gt;"), ('<', "&lt;")]

/-- The entities of attribute values. -/
def attrTable : EntityTable := textTable ++ ([('"', "&quot;")] : EntityTable)

instance (table : EntityTable) : Decidable table.HasAmpersand := List.decidableBEx _ table

theorem sound_textTable : textTable.Sound := by
  constructor <;> decide

theorem sound_attrTable : attrTable.Sound := by
  constructor <;> decide

theorem chain_textTable (cs : List CodePoint) : textTable.chain cs = charData cs := by
  simp only [EntityTable.chain, textTable, List.foldl_cons, List.foldl_nil, charData]

theorem chain_attrTable (cs : List CodePoint) : attrTable.chain cs = attrValue cs := by
  rw [attrValue, ← chain_textTable]
  simp only [EntityTable.chain, attrTable, List.foldl_append, List.foldl_cons, List.foldl_nil]

/-- Both escapes write each character on its own, by their tables. So they go over a text part by part,
differ on different texts, are undone by one pass through what they wrote, leave no markup character,
and no ampersand but at the beginning of an entity of theirs. -/
theorem escapes_encode : Encodes textTable text ∧ Encodes attrTable attr := by
  constructor
  · apply encodes_of_sound sound_textTable
    intro v
    rw [chain_textTable, text, Text.toList_ofList]
  · apply encodes_of_sound sound_attrTable
    intro v
    rw [chain_attrTable, attr, Text.toList_ofList]

end SearchAppliance.Text.Escape
