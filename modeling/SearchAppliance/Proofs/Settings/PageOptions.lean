import Mathlib.Data.List.Forall2
import SearchAppliance.Proofs.Text.Cut
import SearchAppliance.Settings.Options

namespace SearchAppliance.Settings

namespace Checked

variable {α β : Type}

theorem map_eq_ok {f : α → β} {a : Checked α} {b : β} :
    a.map f = .ok b ↔ ∃ x, a = .ok x ∧ f x = b := by
  cases a <;> simp [map]

theorem bind_eq_ok {f : α → Checked β} {a : Checked α} {b : β} :
    a.bind f = .ok b ↔ ∃ x, a = .ok x ∧ f x = .ok b := by
  cases a <;> simp [bind]

theorem and_eq_ok {f : Checked (α → β)} {a : Checked α} {b : β} :
    f.and a = .ok b ↔ ∃ g x, f = .ok g ∧ a = .ok x ∧ g x = b := by
  cases f <;> cases a <;> simp [Checked.and]

theorem under_eq_ok {place : Place} {a : Checked α} {x : α} :
    a.under place = .ok x ↔ a = .ok x := by
  cases a <;> simp [under]

theorem each_eq_ok {check : Json → Checked α} {n : Nat} {vs : List Json} {as : List α} :
    each check n vs = .ok as ↔ List.Forall₂ (fun v a => check v = .ok a) vs as := by
  induction vs generalizing n as with
  | nil => cases as <;> simp [each]
  | cons v rest ih =>
    simp only [each, and_eq_ok, map_eq_ok, under_eq_ok, ih, List.forall₂_cons_left_iff]
    constructor
    · rintro ⟨_, more, ⟨a, ha, rfl⟩, hmore, rfl⟩
      exact ⟨a, more, ha, hmore, rfl⟩
    · rintro ⟨a, more, ha, hmore, rfl⟩
      exact ⟨_, more, ⟨a, ha, rfl⟩, hmore, rfl⟩

theorem exists_of_each {check : Json → Checked α} {n : Nat} {vs : List Json} {as : List α}
    (h : each check n vs = .ok as) : ∀ a ∈ as, ∃ v, check v = .ok a := by
  replace h := each_eq_ok.mp h
  induction h with
  | nil => simp
  | cons ha _ ih =>
    intro b hb
    rcases List.mem_cons.mp hb with rfl | hb
    · exact ⟨_, ha⟩
    · exact ih b hb

end Checked

theorem required_eq_ok {α : Type} {check : Json → Checked α} {name : String}
    {members : List (Text × Json)} {a : α} :
    required check name members = .ok a ↔
      ∃ v, Pairs.get? (name : Text) members = some v ∧ check v = .ok a := by
  rw [required, Checked.under_eq_ok]
  cases Pairs.get? (name : Text) members <;> simp [Checked.fail]

theorem optional_eq_ok {α : Type} {check : Json → Checked α} {name : String} {default : α}
    {members : List (Text × Json)} {a : α} (h : optional check name default members = .ok a) :
    (∃ v, check v = .ok a) ∨ a = default := by
  unfold optional at h
  split at h
  · next v _ => exact Or.inl ⟨v, Checked.under_eq_ok.mp h⟩
  · cases h
    exact Or.inr rfl

namespace PlacedAttribute

theorem isName_of_ofJson {v : Json} {attr : PlacedAttribute} (h : ofJson v = .ok attr) :
    isName attr.name.toList = true := by
  obtain ⟨members, -, h⟩ := Checked.bind_eq_ok.mp h
  obtain ⟨f, value, hf, -, rfl⟩ := Checked.and_eq_ok.mp h
  obtain ⟨g, name, hg, hname, rfl⟩ := Checked.and_eq_ok.mp hf
  obtain ⟨index, -, rfl⟩ := Checked.map_eq_ok.mp hg
  obtain ⟨w, -, hw⟩ := required_eq_ok.mp hname
  obtain ⟨s, -, hs⟩ := Checked.bind_eq_ok.mp hw
  split at hs
  · next hn =>
    cases hs
    exact hn
  · cases hs

/-- A name has none of the characters that delimit attributes. -/
theorem not_mem_of_isName {cs : List Char} (h : isName cs = true) :
    Text.Lacks [' ', '=', '"', '<', '>'] cs := by
  intro c hc hm
  have hother : (Text.WordChar.isWordChar c || c = '.' || c = '-') = false ∧
      (c.isAlpha || c = '_') = false := by
    simp only [List.mem_cons, List.not_mem_nil, or_false] at hc
    rcases hc with rfl | rfl | rfl | rfl | rfl <;> decide
  cases cs with
  | nil => cases hm
  | cons first rest =>
    rw [isName, Bool.and_eq_true, List.all_eq_true] at h
    rcases List.mem_cons.mp hm with rfl | hrest
    · rw [hother.2] at h
      exact absurd h.1 (by decide)
    · have hc := h.2 c hrest
      rw [hother.1] at hc
      cases hc

end PlacedAttribute

namespace PageOptions

/-- Does every further attribute have a name? -/
def Valid (options : PageOptions) : Prop :=
  ∀ attr ∈ options.attributes, PlacedAttribute.isName attr.name.toList = true

instance (options : PageOptions) : Decidable options.Valid :=
  inferInstanceAs (Decidable (∀ attr ∈ options.attributes, _))

theorem valid_default : Valid {} := by decide

/-- Options that are accepted are valid. -/
theorem valid_of_ofMembers {members : List (Text × Json)} {options : PageOptions}
    (h : ofMembers members = .ok options) : options.Valid := by
  obtain ⟨f, attributes, hf, ha, rfl⟩ := Checked.and_eq_ok.mp h
  have hattributes : ∀ attr ∈ attributes, PlacedAttribute.isName attr.name.toList = true := by
    rcases optional_eq_ok ha with ⟨v, hv⟩ | rfl
    · unfold listOf at hv
      split at hv
      · intro attr hm
        obtain ⟨item, hitem⟩ := Checked.exists_of_each hv attr hm
        exact PlacedAttribute.isName_of_ofJson hitem
      · cases hv
    · exact valid_default
  obtain ⟨g, path, hg, -, rfl⟩ := Checked.and_eq_ok.mp hf
  obtain ⟨k, strict, hk, -, rfl⟩ := Checked.and_eq_ok.mp hg
  obtain ⟨l, echo, hl, -, rfl⟩ := Checked.and_eq_ok.mp hk
  obtain ⟨encode, -, rfl⟩ := Checked.map_eq_ok.mp hl
  exact hattributes

end PageOptions

end SearchAppliance.Settings
