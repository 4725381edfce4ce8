import SearchAppliance.Calendar.Instant
import SearchAppliance.Proofs.Outcome

namespace SearchAppliance

namespace Number

/-- Is the text a numeral with more digits than are read? -/
def Overlong (value : Text) : Prop :=
  ∃ n, Numeral.ofSignedList? value.toList = some n ∧ digitLimit < n.digits.length

/-- The failure of a value that is not taken into a result: an overlong numeral has one of its own,
for any other value it names the field and the value. -/
structure Refusal (field value : Text) (cause : Failure) : Prop where
  overlong : Overlong value → cause.isMalformedField = false
  unusable : ¬Overlong value → cause = .malformedField field value

theorem Refusal.isMalformedField_iff {field value : Text} {cause : Failure}
    (h : Refusal field value cause) :
    cause.isMalformedField = true ↔ cause = .malformedField field value := by
  constructor
  · intro hm
    apply h.unusable
    intro hlong
    rw [h.overlong hlong] at hm
    cases hm
  · rintro rfl
    rfl

theorem refusal_of_readField {field value : Text} {cause : Failure}
    (h : readField field value = .error cause) : Refusal field value cause := by
  unfold readField at h
  split at h
  · next hn =>
    cases h
    refine ⟨?_, fun _ => rfl⟩
    rintro ⟨n, hsome, -⟩
    rw [hn] at hsome
    cases hsome
  · next n hn =>
    unfold Numeral.value at h
    split at h
    · next hlong =>
      cases h
      exact ⟨fun _ => rfl, fun hnot => absurd ⟨n, hn, hlong⟩ hnot⟩
    · cases h

theorem overlong_iff_readField {field value : Text} :
    Overlong value ↔ ∃ digits, readField field value = .error (.numeralTooLong digits) := by
  unfold Overlong readField
  cases Numeral.ofSignedList? value.toList with
  | none => simp
  | some n =>
    unfold Numeral.value
    by_cases h : digitLimit < n.digits.length <;> simp [h]

end Number

theorem Calendar.refusal_of_readDate {field value : Text} {cause : Failure}
    (h : readDate field value = .error cause) : Number.Refusal field value cause := by
  rcases Outcome.bind_eq_error.mp h with hr | ⟨n, hr, h⟩
  · exact Number.refusal_of_readField hr
  · have hcause : cause = .malformedField field value := by
      split at h
      · cases h
      · exact (Except.error.inj h).symm
    refine ⟨fun hlong => ?_, fun _ => hcause⟩
    obtain ⟨digits, he⟩ := Number.overlong_iff_readField.mp hlong
    rw [hr] at he
    cases he

end SearchAppliance
