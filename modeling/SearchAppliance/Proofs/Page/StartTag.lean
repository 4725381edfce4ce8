import Mathlib.Data.List.Nodup
import SearchAppliance.Proofs.Page.Limits
import SearchAppliance.Proofs.Page.Pieces
import SearchAppliance.Proofs.Text.Percent
import SearchAppliance.Proofs.Text.XmlName

namespace SearchAppliance

open Settings (PageOptions)

namespace Text

/-- A letter of the English alphabet or `_` may begin a name. -/
theorem xmlNameStarts_of_isAlpha {c : Char} (h : (c.isAlpha || c = '_') = true) :
    xmlNameStarts.covers c.toNat = true := by
  rw [Bool.or_eq_true, decide_eq_true_eq] at h
  rcases h with h | rfl
  · have hcapitals : xmlNameStarts.spans 0x41 0x5A = true := by decide
    have hsmall : xmlNameStarts.spans 0x61 0x7A = true := by decide
    rcases toNat_of_isAlpha h with hrange | hrange
    · exact RangeTable.covers_of_spans hcapitals hrange.1 hrange.2
    · exact RangeTable.covers_of_spans hsmall hrange.1 hrange.2
  · decide

/-- Has a text none of the word characters that names leave out? -/
def Nameable (cs : List Char) : Prop := ∀ c ∈ cs, unnamed.covers c.toNat = false

instance (cs : List Char) : Decidable (Nameable cs) := List.decidableBAll _ cs

theorem isXmlName_of_isName {cs : List Char} (h : Settings.PlacedAttribute.isName cs = true)
    (hn : Nameable cs) : isXmlName cs = true := by
  cases cs with
  | nil => cases h
  | cons c rest =>
    rw [Settings.PlacedAttribute.isName, Bool.and_eq_true, List.all_eq_true] at h
    rw [isXmlName, Bool.and_eq_true, List.all_eq_true]
    refine ⟨xmlNameStarts_of_isAlpha h.1, ?_⟩
    intro d hd
    have hword := h.2 d hd
    simp only [Bool.or_eq_true, decide_eq_true_eq] at hword
    rcases hword with (hword | rfl) | rfl
    · rcases wordChar_cases hword with hname | hleft
      · exact hname
      · rw [hn d (List.mem_cons_of_mem _ hd)] at hleft
        cases hleft
    · decide
    · decide

end Text

namespace Page

/-- The names of the further attributes for an index, in order. -/
def placedNames (options : PageOptions) (index : Nat) : List String :=
  (options.attributes.filter (·.index = index)).map (·.name)

/-- Are the names of the attributes in all start tags different? Each tag has its rank as `N`. -/
theorem forall_nodup_iff (options : PageOptions) :
    (∀ index, ("N" :: placedNames options index).Nodup) ↔
      (options.attributes.map fun attr => (attr.index, attr.name)).Nodup ∧
        ∀ attr ∈ options.attributes, attr.name ≠ "N" := by
  have hpairs : (∀ index, (placedNames options index).Nodup) ↔
      (options.attributes.map fun attr => (attr.index, attr.name)).Nodup := by
    simp only [placedNames, List.Nodup, List.pairwise_map, List.pairwise_filter]
    simp only [List.pairwise_iff_getElem]
    constructor
    · intro h i j hi hj hij he
      have hboth := Prod.mk.inj he
      exact h _ i j hi hj hij (decide_eq_true hboth.1) (decide_eq_true rfl) hboth.2
    · intro h index i j hi hj hij hfirst hsecond hname
      apply h i j hi hj hij
      rw [of_decide_eq_true hfirst, of_decide_eq_true hsecond, hname]
  have hrank : (∀ index, "N" ∉ placedNames options index) ↔
      ∀ attr ∈ options.attributes, attr.name ≠ "N" := by
    constructor
    · intro h attr hm hname
      apply h attr.index
      exact List.mem_map.mpr ⟨attr, List.mem_filter.mpr ⟨hm, decide_eq_true rfl⟩, hname⟩
    · intro h index hm
      obtain ⟨attr, hattr, hname⟩ := List.mem_map.mp hm
      exact h attr (List.mem_filter.mp hattr).1 hname
  simp only [List.nodup_cons, forall_and]
  rw [hpairs, hrank, and_comm]

theorem placed_names (options : PageOptions) (index : Nat) :
    (placed options index).map (·.1) = (placedNames options index).map .ofString := by
  simp [placed, placedNames]

/-- The attributes of a start tag are `N` and then those for its index. Their names are different
exactly if the options name none twice and none `N`. -/
theorem hitOpening_names {members : List (Text × Json)} {options : PageOptions}
    (h : PageOptions.ofMembers members = .ok options) (offset : Int) (index : Nat) :
    ((∃ text, hitOpening options offset index = .ok text) ↔
      (offset + index + 1).natAbs < Number.numeralBound) ∧
    (∀ text, hitOpening options offset index = .ok text →
      ∃ tag : Piece, Piece.readAll text.toList = [tag] ∧ tag.name = "R" ∧
        let names := tag.attributes.map (·.1)
        names = ("N" :: placedNames options index).map Text.ofString ∧
        (names.Nodup ↔ (placedNames options index).Nodup ∧ "N" ∉ placedNames options index) ∧
        ∀ name : String, (name : Text) ∈ names → Text.Nameable name.toList →
          Text.isXmlName name.toList = true) ∧
    ((∀ other, ("N" :: placedNames options other).Nodup) ↔
      (options.attributes.map fun attr => (attr.index, attr.name)).Nodup ∧
        ∀ attr ∈ options.attributes, attr.name ≠ "N") := by
  have hv := PageOptions.valid_of_ofMembers h
  refine ⟨?_, ?_, forall_nodup_iff options⟩
  · constructor
    · rintro ⟨text, ht⟩
      obtain ⟨rank, hr, -⟩ := Outcome.bind_eq_ok.mp ht
      exact (Number.write_eq_ok.mp hr).1
    · exact hitOpening_ok options
  · intro text ht
    have hread := (spells_hitOpening hv ht).readAll
    have hjoin : Text.join [text] = text := Text.toList_inj.mp (List.flatMap_singleton _ _)
    rw [hjoin] at hread
    have hnames : (hitPiece options offset index).attributes.map (·.1) =
        ("N" :: placedNames options index).map Text.ofString := by
      rw [hitPiece, List.map_cons, placed_names, List.map_cons]
    have hinjective : Function.Injective Text.ofString := fun _ _ => Text.ofString_inj.mp
    refine ⟨_, hread, rfl, hnames, ?_, ?_⟩
    · rw [hnames, List.nodup_map_iff hinjective, List.nodup_cons, and_comm]
    · intro name hm hn
      rw [hnames, List.mem_map_of_injective hinjective] at hm
      rcases List.mem_cons.mp hm with rfl | hm
      · decide
      · obtain ⟨attr, ha, rfl⟩ := List.mem_map.mp hm
        exact Text.isXmlName_of_isName (hv attr (List.mem_filter.mp ha).1) hn

/-- Two attributes for the second hit, one of them with a name that is not in English letters. The
first hit has the same name again. -/
theorem hitOpening_names_second :
    let given : List Json := [
      .obj [("index", .int 1), ("name", .str "L"), ("value", .str "2")],
      .obj [("index", .int 1), ("name", .str "größe"), ("value", .str "a")],
      .obj [("index", .int 0), ("name", .str "L"), ("value", .str "3")]]
    let options : PageOptions :=
      { attributes := [⟨1, "L", "2"⟩, ⟨1, "größe", "a"⟩, ⟨0, "L", "3"⟩] }
    PageOptions.ofMembers [("positional_attributes", .arr given)] = .ok options ∧
      ∃ text tag, hitOpening options 9 1 = .ok text ∧ Piece.readAll text.toList = [tag] ∧
        tag.attributes.map (·.1) = (["N", "L", "größe"] : List Text) ∧
        (tag.attributes.map (·.1)).Nodup ∧ Text.isXmlName "größe".toList = true := by
  intro given options
  have h : PageOptions.ofMembers [("positional_attributes", .arr given)] = .ok options := by rfl
  have hrank : (9 + ((1 : Nat) : Int) + 1).natAbs < Number.numeralBound :=
    Nat.lt_trans (by decide) Number.thousand_lt_numeralBound
  obtain ⟨hwritten, hall, -⟩ := hitOpening_names h 9 1
  obtain ⟨text, ht⟩ := hwritten.mpr hrank
  obtain ⟨tag, hread, -, hnames, hdiffer, hproper⟩ := hall text ht
  refine ⟨h, text, tag, ht, hread, hnames, hdiffer.mpr (by decide), ?_⟩
  apply hproper "größe"
  · rw [hnames]
    decide
  · decide

/-- The options are accepted, but the start tag has the attribute `N` twice, and the name of the last
one is none of XML 1.0. -/
theorem hitOpening_twice :
    let given : List Json := [
      .obj [("index", .int 0), ("name", .str "N"), ("value", .str "7")],
      .obj [("index", .int 0), ("name", .str "aª"), ("value", .str "1")]]
    let options : PageOptions := { attributes := [⟨0, "N", "7"⟩, ⟨0, "aª", "1"⟩] }
    let text : Text := "<R N=\"1\" N=\"7\" aª=\"1\">\n"
    PageOptions.ofMembers [("positional_attributes", .arr given)] = .ok options ∧
      hitOpening options 0 0 = .ok text ∧
      ∃ tag, Piece.readAll text.toList = [tag] ∧ tag.name = "R" ∧
        let names := tag.attributes.map (·.1)
        names = (["N", "N", "aª"] : List Text) ∧ ¬ names.Nodup ∧
          ¬ ∀ name : String, (name : Text) ∈ names → Text.isXmlName name.toList = true := by
  intro given options text
  have hread : Piece.readAll text.toList = [{
      name := "R"
      attributes := [("N", "1"), ("N", "7"), ("aª", "1")]
      text := "\n" }] := by decide +kernel
  refine ⟨by rfl, by rfl, _, hread, rfl, rfl, by decide, ?_⟩
  intro hnames
  have hlast : Text.isXmlName "aª".toList = false := by decide +kernel
  rw [hnames "aª" (by decide)] at hlast
  cases hlast

end Page

end SearchAppliance
