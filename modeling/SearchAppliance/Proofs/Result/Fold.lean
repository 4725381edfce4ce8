import SearchAppliance.Proofs.Page.Projection
import SearchAppliance.Proofs.Result.Leniency

namespace SearchAppliance

open Settings (PageOptions)

namespace Digest

variable {options : PageOptions}

/-- Does a value end the digest of its hit? -/
def stops (options : PageOptions) (entry : Text × Text) : Bool :=
  match take options {} entry with
  | .ok _ => false
  | .error cause => !(cause.isMalformedField && !options.strictNumbers)

theorem takeAll_isOk (d : Digest) (entries : List (Text × Text)) :
    (takeAll options d entries).outcome.isOk = !entries.any (stops options) := by
  induction entries generalizing d with
  | nil => rfl
  | cons entry rest ih =>
    rw [takeAll, List.any_cons, stops]
    cases ht : d.take options entry with
    | ok next =>
      have hok := (take_isOk options d entry).trans (take_isOk options {} entry).symm
      rw [ht] at hok
      obtain ⟨other, ho⟩ := Outcome.isOk_iff.mp hok.symm
      rw [ho]
      exact ih next
    | error cause =>
      rw [take_error.mp ht]
      by_cases hskip : (cause.isMalformedField && !options.strictNumbers) = true
      · simp only [hskip, if_true, Bool.not_true, Bool.false_or]
        exact ih d
      · simp only [hskip, Bool.false_eq_true, if_false, Bool.not_false, Bool.true_or]
        rfl

/-- Whether there is a digest is decided value by value. -/
theorem ofFields_append_isOk (options : PageOptions) (front back : Fields) :
    (ofFields options (front ++ back)).outcome.isOk =
      ((ofFields options front).outcome.isOk && (ofFields options back).outcome.isOk) := by
  simp only [ofFields, takeAll_isOk, Fields.entries, List.flatMap_append, List.any_append,
    Bool.not_or]

/-- A digest is a fold over the values of its hit, and fields outside the schema leave no trace. -/
theorem ofFields_fold (options : PageOptions) (fields : Fields) (last : Digest)
    (h : (ofFields options fields).outcome = .ok last) :
    last = gathered options fields.entries ∧
      (∀ front back, fields = front ++ back → ∃ first second,
        (ofFields options front).outcome = .ok first ∧
          (ofFields options back).outcome = .ok second ∧
          last = first.continued (sets back.entries) second) ∧
      (∀ snippets identity, (fields.elements options snippets identity).outcome =
        .ok (last.tags.map (fun tag => .text tag.1.name (some tag.2)) ++
          [.text "S" (some (last.snippet snippets)), .text "GD" (some last.description),
            .markup last.features, .text "ENT_SOURCE" (some identity)])) ∧
      ofFields options (fields.restrict (some Field.requested)) = ofFields options fields := by
  refine ⟨ofFields_gathered h, ?_, ?_, ofFields_requested options fields⟩
  · rintro front back rfl
    have hboth : (ofFields options (front ++ back)).outcome.isOk = true := by
      rw [h]
      rfl
    rw [ofFields_append_isOk, Bool.and_eq_true] at hboth
    obtain ⟨first, hfirst⟩ := Outcome.isOk_iff.mp hboth.1
    obtain ⟨second, hsecond⟩ := Outcome.isOk_iff.mp hboth.2
    refine ⟨first, second, hfirst, hsecond, ?_⟩
    rw [ofFields_gathered h, ofFields_gathered hfirst, ofFields_gathered hsecond]
    exact (congrArg (gathered options) List.flatMap_append).trans (gathered_append options _ _)
  · intro snippets identity
    simp only [Fields.elements, Logged.map, h]
    rfl

/-- The second size and the first date are left out; the last usable size stays. -/
theorem ofFields_fold_tea :
    let options : PageOptions := { strictNumbers := false }
    let front : Fields :=
      [("title", ["Tea", "Black tea"]), ("colour", ["green"]), ("size_i", ["2048", "12x"])]
    let back : Fields := [("last_modified", ["soon", "0"]), ("sku", ["/tea"]), ("text_t", ["hot"])]
    let date := "Thu, 01 Jan 1970 00:00:00 GMT"
    let last : Digest :=
      { title := some "Black tea", size := 2048, lastModified := some date, address := some "/tea"
        texts := ["Tea", "Black tea", "0", "hot"]
        tags := [(.title, "Tea"), (.title, "Black tea"), (.cacheLastModified, date),
          (.url, "/tea"), (.encodedUrl, "/tea")] }
    (ofFields options (front ++ back)).outcome = .ok last ∧
      ∃ first second, (ofFields options front).outcome = .ok first ∧
        (ofFields options back).outcome = .ok second ∧
        last = first.continued (sets back.entries) second ∧ first.size = 2048 ∧ second.size = 0 := by
  intro options front back date last
  have hlast : (ofFields options (front ++ back)).outcome = .ok last := rfl
  obtain ⟨-, hparts, -, -⟩ := ofFields_fold options (front ++ back) last hlast
  obtain ⟨first, second, hfirst, hsecond, hjoin⟩ := hparts front back rfl
  refine ⟨hlast, first, second, hfirst, hsecond, hjoin, ?_, ?_⟩
  · rw [ofFields_gathered hfirst]
    decide
  · rw [ofFields_gathered hsecond]
    decide

end Digest

end SearchAppliance
