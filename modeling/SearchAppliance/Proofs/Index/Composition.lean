import SearchAppliance.Proofs.Index.Score

namespace SearchAppliance

namespace Query

theorem terms_append (one two : Text) :
    terms (one ++ " " ++ two) = terms one ++ terms two := by
  have htext : (one ++ " " ++ two).toList = one.toList ++ .char ' ' :: two.toList := by simp
  rw [terms, htext, Text.words_append_blank _ _ _ (by decide), List.map_append]
  rfl

variable {terms other : List (List CodePoint)}

theorem total_append (terms other : List (List CodePoint)) (fields : Fields) :
    total (terms ++ other) fields = total terms fields + total other fields := by
  induction terms with
  | nil => exact (Nat.zero_add _).symm
  | cons term rest ih =>
    have hfirst (rest : List (List CodePoint)) : total (term :: rest) fields =
        Text.occurrences term (joined (texts fields)) + total rest fields := rfl
    rw [List.cons_append, hfirst, hfirst, ih]
    omega

theorem total_perm (h : terms.Perm other) (fields : Fields) :
    total terms fields = total other fields :=
  (h.map _).sum_nat

theorem holds_append (fields : Fields) :
    Holds (terms ++ other) fields ↔ Holds terms fields ∧ Holds other fields := by
  unfold Holds
  rw [List.forall_mem_append]

theorem Holds.of_subset {fields : Fields} (h : Holds other fields) (hs : terms ⊆ other) :
    Holds terms fields :=
  fun term hm => h term (hs hm)

theorem holds_perm (h : terms.Perm other) (fields : Fields) :
    Holds terms fields ↔ Holds other fields :=
  ⟨fun ht => ht.of_subset h.symm.subset, fun ho => ho.of_subset h.subset⟩

end Query

namespace Index

variable {index : Index} {terms other : List (List CodePoint)}

/-- A match stands at its place in the index, every term occurs in it, and its score counts them. -/
theorem mem_answers_iff {m : Match} :
    m ∈ index.answers terms ↔
      ((m.id, m.fields), m.position) ∈ index.documents.zipIdx ∧ Query.Holds terms m.fields ∧
        Query.total terms m.fields = m.score := by
  simp only [answers, List.mem_map, List.mem_filter, decide_eq_true_eq]
  constructor
  · rintro ⟨entry, ⟨hmem, hholds⟩, rfl⟩
    exact ⟨hmem, hholds, rfl⟩
  · rintro ⟨hmem, hholds, hscore⟩
    refine ⟨_, ⟨hmem, hholds⟩, ?_⟩
    rw [hscore]

theorem answers_perm (h : terms.Perm other) : index.answers terms = index.answers other := by
  have htotal : Query.total terms = Query.total other := funext (Query.total_perm h)
  have hholds : (fun fields => decide (Query.Holds terms fields)) =
      fun fields => decide (Query.Holds other fields) :=
    funext fun fields => decide_eq_decide.mpr (Query.holds_perm h fields)
  have hfilter : index.documents.zipIdx.filter (fun entry => Query.Holds terms entry.1.2) =
      index.documents.zipIdx.filter fun entry => Query.Holds other entry.1.2 :=
    List.filter_congr fun entry _ => congrFun hholds entry.1.2
  rw [answers, answers, hfilter, htotal]

/-- Who answers more terms answers some of them, with another score. -/
theorem exists_answer_of_subset (hs : terms ⊆ other) {m : Match} (h : m ∈ index.answers other) :
    ∃ wider ∈ index.answers terms, wider.fields = m.fields := by
  obtain ⟨hmem, hholds, -⟩ := mem_answers_iff.mp h
  exact ⟨⟨m.id, m.fields, Query.total terms m.fields, m.position⟩,
    mem_answers_iff.mpr ⟨hmem, hholds.of_subset hs, rfl⟩, rfl⟩

theorem answers_length_le (hs : terms ⊆ other) :
    (index.answers other).length ≤ (index.answers terms).length := by
  rw [answers_length, answers_length]
  apply List.countP_mono_left
  intro document _ hd
  exact decide_eq_true (Query.Holds.of_subset (of_decide_eq_true hd) hs)

/-- A search is the cut that a request makes from the ranking. -/
theorem search_eq_map (index : Index) (request : Search) :
    index.search request = (index.ranking request.query request.sort).map request.resultOf := by
  unfold search
  cases index.ranking request.query request.sort <;> rfl

/-- The page of a request depends on its query by way of the ranking only. -/
theorem page_eq_map (index : Index) (request : Search) (query : Text) :
    (index.search { request with query := query }).map (·.page) =
      (index.ranking query request.sort).map fun ranked => (request.resultOf ranked).page := by
  rw [search_eq_map]
  cases index.ranking query request.sort <;> rfl

theorem search_isOk_of_subset (request : Search) {other : Search} (hsort : other.sort = request.sort)
    (hs : Query.terms request.query ⊆ Query.terms other.query)
    (h : (index.search request).isOk = true) : (index.search other).isOk = true := by
  rw [search_isOk] at h ⊢
  rw [hsort]
  cases hc : request.sort.filter (· ≠ ("" : Text)) with
  | none => rfl
  | some clause =>
    simp only [hc, List.all_eq_true] at h ⊢
    intro m hm
    obtain ⟨wider, hwider, hfields⟩ := exists_answer_of_subset hs hm
    rw [← hfields]
    exact h wider hwider

theorem found_of_search {request : Search} {result : SearchResult}
    (h : index.search request = .ok result) :
    result.page.found = ((index.answers (Query.terms request.query)).length : Nat) := by
  obtain ⟨ranked, hrank, rfl⟩ := search_eq_ok.mp h
  exact congrArg Nat.cast (ranking_perm hrank).length_eq

/-- Queries compose: joined by a space they find the documents that both find, their words count in
any order and in any case, and more words find no more. -/
theorem search_composes (index : Index) (one two : Text) :
    (∀ id fields score position,
      ⟨id, fields, score, position⟩ ∈ index.matching (Query.terms (one ++ " " ++ two)) ↔
        ∃ first second, ⟨id, fields, first, position⟩ ∈ index.matching (Query.terms one) ∧
          ⟨id, fields, second, position⟩ ∈ index.matching (Query.terms two) ∧
          score = first + second) ∧
      ((Query.terms one).Perm (Query.terms two) → ∀ request : Search,
        (index.search { request with query := one }).map (·.page) =
          (index.search { request with query := two }).map (·.page)) ∧
      (Query.terms one ⊆ Query.terms two → ∀ (request : Search) (result : SearchResult),
        index.search { request with query := one } = .ok result →
          ∃ narrower, index.search { request with query := two } = .ok narrower ∧
            narrower.page.found ≤ result.page.found) := by
  refine ⟨?_, ?_, ?_⟩
  · intro id fields score position
    simp only [matching_eq_answers, mem_answers_iff, Query.terms_append, Query.holds_append,
      Query.total_append]
    constructor
    · rintro ⟨hmem, ⟨hone, htwo⟩, hscore⟩
      exact ⟨_, _, ⟨hmem, hone, rfl⟩, ⟨hmem, htwo, rfl⟩, hscore.symm⟩
    · rintro ⟨first, second, ⟨hmem, hone, rfl⟩, ⟨-, htwo, rfl⟩, rfl⟩
      exact ⟨hmem, ⟨hone, htwo⟩, rfl⟩
  · intro h request
    have hranking : index.ranking one request.sort = index.ranking two request.sort := by
      rw [ranking, ranking, matching_eq_answers, matching_eq_answers, answers_perm h]
    rw [page_eq_map, page_eq_map, hranking]
  · intro hs request result h
    have hok : (index.search { request with query := two }).isOk = true :=
      search_isOk_of_subset { request with query := one } rfl hs
        (Outcome.isOk_iff.mpr ⟨result, h⟩)
    obtain ⟨narrower, hn⟩ := Outcome.isOk_iff.mp hok
    refine ⟨narrower, hn, ?_⟩
    rw [found_of_search h, found_of_search hn]
    exact Int.ofNat_le.mpr (answers_length_le hs)

example :
    (Query.terms " Green  TEA").Perm (Query.terms "tea green") ∧
      Query.terms "tea" ⊆ Query.terms "tea green" := by decide

end Index

end SearchAppliance
