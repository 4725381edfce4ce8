import SearchAppliance.Proofs.Service.History

namespace SearchAppliance.Service

open Settings (Checked)

/-- The engine after requests, the first of which finds an empty index. -/
def after (identity : Text) (clock : Clock) (requests : List Request) : Engine :=
  requests.foldl (fun engine request => (handle identity clock engine request).2) (.own {})

theorem after_eq_serve (identity : Text) (clock : Clock) (requests : List Request) :
    after identity clock requests =
      (serve identity (.own {}) (requests.map (Arrival.mk clock))).engine := by
  have run (engine : Engine) :
      requests.foldl (fun engine request => (handle identity clock engine request).2) engine =
        (serve identity engine (requests.map (Arrival.mk clock))).engine := by
    induction requests generalizing engine with
    | nil => rfl
    | cons request rest ih => exact ih _
  exact run _

/-- Requests leave the service with an index of its own, to which the documents that they offered
were added. -/
theorem after_own (identity : Text) (clock : Clock) (requests : List Request) :
    ∃ documents, Offered requests documents ∧
      after identity clock requests = .own (Index.ofDocuments documents) := by
  obtain ⟨documents, index, haccounts, hengine⟩ :=
    serve_accounts identity {} (requests.map (Arrival.mk clock))
  have hrequests := congrArg (List.map Arrival.request)
    (serve_arrivals identity (.own {}) (requests.map (Arrival.mk clock)))
  rw [List.map_map, List.map_map, show Arrival.request ∘ Arrival.mk clock = id from rfl,
    List.map_id] at hrequests
  refine ⟨documents, hrequests ▸ haccounts.offered, ?_⟩
  rw [after_eq_serve, hengine, haccounts.held]
  rfl

theorem boundedInteger_le {least most n : Nat} {v : Json}
    (h : Settings.boundedInteger least (some most) v = .ok n) : n ≤ most := by
  obtain ⟨m, -, h⟩ := Checked.bind_eq_ok.mp h
  split at h
  · cases h
  · next hle =>
    split at h
    · cases h
    · cases h
      simp at hle
      omega

/-- A search may ask for no more hits than the limit of pages. -/
theorem windowParams_rows {params : List (String × String)} {start rows : Nat}
    (h : windowParams params = .ok (start, rows)) : rows ≤ 1000 := by
  obtain ⟨f, n, hf, hn, he⟩ := Checked.and_eq_ok.mp h
  obtain ⟨m, -, rfl⟩ := Checked.map_eq_ok.mp hf
  cases he
  unfold integerParam at hn
  split at hn
  · cases hn
    decide
  · exact boundedInteger_le (Checked.under_eq_ok.mp (Checked.under_eq_ok.mp hn))

end SearchAppliance.Service
