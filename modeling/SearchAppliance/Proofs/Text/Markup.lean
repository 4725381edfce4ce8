import SearchAppliance.Proofs.Text.Cut
import SearchAppliance.Proofs.Text.Entity

namespace SearchAppliance

open Text.Escape

/-- A tag, and the text that follows it. The name of a tag without attributes is all that stands in
it, with the strokes. -/
structure Piece where
  name : Text
  attributes : List (Text × Text) := []
  /-- What stands between the last attribute and the end of the tag. -/
  tail : Text := ""
  text : Text := ""
  deriving DecidableEq, Repr

namespace Piece

def writtenAttributes (attributes : List (Text × Text)) : List CodePoint :=
  attributes.flatMap fun (key, value) =>
    .char ' ' :: (key.toList ++ .char '=' :: .char '"' :: (attrValue value.toList ++ [.char '"']))

/-- The piece without the character that opens its tag. -/
def chunk (p : Piece) : List CodePoint :=
  p.name.toList ++ (writtenAttributes p.attributes ++ p.tail.toList)
    ++ .char '>' :: charData p.text.toList

def written (p : Piece) : List CodePoint := .char '<' :: p.chunk

/-- The name in a part of a tag that comes before a value: what stands between a space and `=`. -/
def keyOf (part : List CodePoint) : Text :=
  Text.ofList (((part.dropWhile (· ≠ .char ' ')).drop 1).takeWhile (· ≠ .char '='))

/-- The attributes in the parts of a tag, cut at quotation marks, and what follows them. -/
def readAttributes : List (List CodePoint) → List (Text × Text) × Text
  | part :: value :: rest =>
    let (attributes, tail) := readAttributes rest
    ((keyOf part, Text.ofList (unescape value)) :: attributes, tail)
  | [last] => ([], Text.ofList last)
  | [] => ([], "")

/-- Reads a piece without the character that opens its tag. -/
def read (cs : List CodePoint) : Piece :=
  let text := Text.ofList (unescape ((cs.dropWhile (· ≠ .char '>')).drop 1))
  match Text.cut (.char '"') (cs.takeWhile (· ≠ .char '>')) with
  | [name] => { name := Text.ofList name, text := text }
  | parts =>
    let (attributes, tail) := readAttributes parts
    { name := Text.ofList ((parts.headD []).takeWhile (· ≠ .char ' '))
      attributes := attributes
      tail := tail
      text := text }

/-- Reads the pieces of a document; what comes before the first tag is dropped. -/
def readAll (cs : List CodePoint) : List Piece := ((Text.cut (.char '<') cs).drop 1).map read

/-- The characters that would end a name, or open or close a value. -/
def nameStops : List CodePoint := [' ', '"', '<', '>']

/-- Those that would end the key of an attribute. -/
def keyStops : List CodePoint := [' ', '=', '"', '<', '>']

/-- Those that would end what follows the attributes. -/
def tailStops : List CodePoint := ['"', '<', '>']

/-- Names, keys and tail have no characters that would end them. -/
structure Sound (p : Piece) : Prop where
  name : Text.Lacks nameStops p.name.toList
  keys : ∀ attr ∈ p.attributes, Text.Lacks keyStops attr.1.toList
  tail : Text.Lacks tailStops p.tail.toList
  bare : p.attributes = [] → p.tail = ""

theorem keyOf_append {front key : List CodePoint} (hf : .char ' ' ∉ front) (hk : .char '=' ∉ key) :
    keyOf (front ++ .char ' ' :: (key ++ [.char '='])) = Text.ofList key := by
  rw [keyOf, (Text.takeWhile_until hf _).2, List.drop_one, List.tail_cons,
    (Text.takeWhile_until hk []).1]

theorem cut_attribute (front : List CodePoint) (hf : .char '"' ∉ front) {attr : Text × Text}
    (hk : .char '"' ∉ attr.1.toList) (more : List (Text × Text)) (rest : List CodePoint) :
    Text.cut (.char '"') (front ++ (writtenAttributes (attr :: more) ++ rest)) =
      (front ++ .char ' ' :: (attr.1.toList ++ [.char '='])) :: attrValue attr.2.toList ::
        Text.cut (.char '"') (writtenAttributes more ++ rest) := by
  have hpart : .char '"' ∉ front ++ .char ' ' :: (attr.1.toList ++ [.char '=']) := by simp [hf, hk]
  have hvalue : .char '"' ∉ attrValue attr.2.toList := not_mem_attrValue (by simp) _
  rw [← Text.cut_append hvalue, ← Text.cut_append hpart]
  simp [writtenAttributes]

theorem readAttributes_cut {attributes : List (Text × Text)} {tail : Text}
    (hk : ∀ attr ∈ attributes, Text.Lacks keyStops attr.1.toList)
    (ht : .char '"' ∉ tail.toList) :
    readAttributes (Text.cut (.char '"') (writtenAttributes attributes ++ tail.toList)) =
      (attributes, tail) := by
  induction attributes with
  | nil =>
    rw [writtenAttributes, List.flatMap_nil, List.nil_append, Text.cut_all ht, readAttributes]
  | cons attr more ih =>
    have hkey := hk attr List.mem_cons_self
    have hcut := cut_attribute [] List.not_mem_nil (hkey (.char '"') (by decide)) more tail.toList
    rw [List.nil_append] at hcut
    rw [hcut, readAttributes, ih fun other ho => hk other (List.mem_cons_of_mem _ ho),
      keyOf_append List.not_mem_nil (hkey (.char '=') (by decide)), unescape_attrValue]

theorem not_mem_writtenAttributes {attributes : List (Text × Text)}
    (hk : ∀ attr ∈ attributes, Text.Lacks keyStops attr.1.toList)
    {d : CodePoint} (hd : d = '<' ∨ d = '>') : d ∉ writtenAttributes attributes := by
  intro h
  obtain ⟨attr, ha, h⟩ := List.mem_flatMap.mp h
  have hkey : d ∉ attr.1.toList := hk attr ha d (by rcases hd with rfl | rfl <;> decide)
  have hvalue : d ∉ attrValue attr.2.toList := not_mem_attrValue (hd.imp_right Or.inl) _
  rcases hd with rfl | rfl <;> simp [hkey, hvalue] at h

theorem not_mem_tag {p : Piece} (h : p.Sound) {d : CodePoint} (hd : d = '<' ∨ d = '>') :
    d ∉ p.name.toList ++ (writtenAttributes p.attributes ++ p.tail.toList) := by
  have hattrs := not_mem_writtenAttributes h.keys hd
  have hname : d ∉ p.name.toList := h.name d (by rcases hd with rfl | rfl <;> decide)
  have htail : d ∉ p.tail.toList := h.tail d (by rcases hd with rfl | rfl <;> decide)
  simp [hname, hattrs, htail]

theorem not_mem_chunk {p : Piece} (h : p.Sound) : .char '<' ∉ p.chunk := by
  have htag := not_mem_tag h (Or.inl rfl)
  have htext := not_mem_charData (Or.inl rfl) p.text.toList
  rw [chunk, List.mem_append, not_or]
  exact ⟨htag, by simp [htext]⟩

/-- A piece is read back exactly. -/
theorem read_chunk {p : Piece} (h : p.Sound) : read p.chunk = p := by
  obtain ⟨ht, hd⟩ := Text.takeWhile_until (not_mem_tag h (Or.inr rfl)) (charData p.text.toList)
  have hname := h.name (.char '"') (by decide)
  have htail := h.tail (.char '"') (by decide)
  rw [read, chunk]
  simp only [ht, hd, List.drop_one, List.tail_cons, unescape_charData, Text.ofList_toList]
  obtain ⟨name, attributes, tail, text⟩ := p
  cases attributes with
  | nil =>
    have hbare : tail = "" := h.bare rfl
    subst hbare
    rw [writtenAttributes, List.flatMap_nil, List.nil_append, Text.toList_empty, List.append_nil,
      Text.cut_all hname]
  | cons attr more =>
    have hkey := h.keys attr List.mem_cons_self
    have hcut := cut_attribute _ hname (hkey (.char '"') (by decide)) more tail.toList
    have hmore := readAttributes_cut
      (fun other ho => h.keys other (List.mem_cons_of_mem _ ho)) htail
    rw [hcut]
    simp only [readAttributes, hmore, List.headD_cons,
      keyOf_append (h.name (.char ' ') (by decide)) (hkey (.char '=') (by decide)),
      (Text.takeWhile_until (h.name (.char ' ') (by decide)) _).1, unescape_attrValue,
      Text.ofList_toList]

/-- The pieces of a document are read back exactly. -/
theorem readAll_written {ps : List Piece} (h : ∀ p ∈ ps, p.Sound) :
    readAll (ps.flatMap written) = ps := by
  have hcut (front : List CodePoint) (hf : .char '<' ∉ front) :
      Text.cut (.char '<') (front ++ ps.flatMap written) = front :: ps.map chunk := by
    induction ps generalizing front with
    | nil => rw [List.flatMap_nil, List.append_nil, Text.cut_all hf, List.map_nil]
    | cons p rest ih =>
      have hp := not_mem_chunk (h p List.mem_cons_self)
      rw [List.flatMap_cons, written, List.cons_append, Text.cut_append hf, List.map_cons,
        ih (fun q hq => h q (List.mem_cons_of_mem _ hq)) _ hp]
  have hall := hcut [] List.not_mem_nil
  rw [List.nil_append] at hall
  have hread : ps.map (read ∘ chunk) = ps.map id :=
    List.map_congr_left fun p hp => read_chunk (h p hp)
  rw [readAll, hall, List.drop_one, List.tail_cons, List.map_map, hread, List.map_id]

end Piece

end SearchAppliance
