import Mathlib.Data.List.Basic
import SearchAppliance.Proofs.Text.Cut
import SearchAppliance.SortOrder

namespace SearchAppliance

/-- The parts with colons between them. -/
def SortParts.joined (parts : SortParts) : Text :=
  parts.action ++ ":" ++ parts.direction ++ ":" ++ parts.mode ++ ":" ++ parts.format

namespace SortExpression

theorem parse_raw (raw : Text) : (parse raw).raw = raw := by
  unfold parse
  split <;> rfl

/-- A sort expression has its parts exactly if there are three colons in it. -/
theorem parse_parts_isSome (raw : Text) :
    (parse raw).parts.isSome = true ↔ raw.toList.count (.char ':') = 3 := by
  have hlength := Text.length_cut (.char ':') raw.toList
  unfold parse
  split
  · next hparts =>
    rw [hparts] at hlength
    simp at hlength ⊢
    omega
  · next hparts =>
    have hfour : (Text.cut (.char ':') raw.toList).length ≠ 4 := by
      intro hfour
      obtain ⟨action, direction, mode, format, hs⟩ := List.length_eq_four.mp hfour
      exact hparts action direction mode format hs
    simp
    omega

theorem joined_of_parse {raw : Text} {parts : SortParts} (h : (parse raw).parts = some parts) :
    parts.joined = raw := by
  have hjoin := Text.intercalate_cut (.char ':') raw.toList
  unfold parse at h
  split at h
  · next action direction mode format hparts =>
    obtain rfl := Option.some.inj h
    rw [hparts] at hjoin
    rw [← Text.toList_inj, ← hjoin]
    simp [SortParts.joined, List.intercalate]
  · cases h

/-- The clause of an expression depends on its action and its direction only. -/
theorem requestedClause?_some (raw : Text) :
    requestedClause? (some raw) = (parse raw).clause? Field.lastModified.name := by
  by_cases h : raw = ""
  · subst h
    rfl
  · rw [requestedClause?, Option.filter_some_pos (by simpa using h)]
    rfl

end SortExpression

end SearchAppliance
