import Mathlib.Data.List.Basic
import SearchAppliance.Proofs.Index.Identifier

namespace SearchAppliance

/-- Binding a key changes neither the places of the other keys nor what is bound to them. -/
theorem Pairs.filter_zipIdx_put {α : Type} (key : Text) (value : α)
    (pairs : List (Text × α)) (place : Nat) :
    ((put key value pairs).zipIdx place).filter (fun entry => entry.1.1 ≠ key) =
      (pairs.zipIdx place).filter fun entry => entry.1.1 ≠ key := by
  induction pairs generalizing place with
  | nil => simp [put]
  | cons first rest ih =>
    by_cases h : first.1 = key
    · simp [put, h, List.zipIdx_cons]
    · simp only [put, h, if_false, List.zipIdx_cons]
      rw [List.filter_cons_of_pos (by simpa using h), List.filter_cons_of_pos (by simpa using h),
        ih]

namespace Match

theorem Ascending.filter {key : Match → Int} {found ranked : List Match}
    (h : Ascending key found ranked) (p : Match → Bool) :
    Ascending key (found.filter p) (ranked.filter p) :=
  ⟨h.perm.filter p, h.sorted.filter p⟩

/-- Where two collections agree after some matches are left out, their arrangements agree too. -/
theorem arrangement_filter {sort : Option Text} {found other ranked reranked : List Match}
    (hp : found.Pairwise fun a b => a.position < b.position)
    (ho : other.Pairwise fun a b => a.position < b.position)
    (hr : arrangement sort found = .ok ranked) (hrr : arrangement sort other = .ok reranked)
    {p : Match → Bool} (h : other.filter p = found.filter p) :
    reranked.filter p = ranked.filter p := by
  obtain ⟨key, descending, hall⟩ := arrangement_ascending sort
  have ha := (hall found ranked hp hr).filter p
  have hb := (hall other reranked ho hrr).filter p
  rw [h] at hb
  have hsame := hb.unique ha
  cases descending with
  | false => exact hsame
  | true =>
    have hrev : (reranked.filter p).reverse = (ranked.filter p).reverse := by
      simpa [List.filter_reverse] using hsame
    exact List.reverse_injective hrev

end Match

namespace Index

variable {index next : Index} {document : Fields} {id : Text}

theorem documents_of_add (h : index.add document = .ok (id, next)) :
    next.documents = Pairs.put id document index.documents := by
  cases hid : document.documentId? with
  | none => simp [add, hid] at h
  | some found =>
    simp only [add, hid, Except.ok.injEq, Prod.mk.injEq] at h
    obtain ⟨rfl, rfl⟩ := h
    rfl

/-- The other documents answer as before, from the same places. -/
theorem answers_filter (h : index.add document = .ok (id, next)) (terms : List (List CodePoint)) :
    (next.answers terms).filter (fun m => m.id ≠ id) =
      (index.answers terms).filter fun m => m.id ≠ id := by
  have hsplit (index : Index) : (index.answers terms).filter (fun m => m.id ≠ id) =
      ((index.documents.zipIdx.filter fun entry => entry.1.1 ≠ id).filter fun entry =>
        Query.Holds terms entry.1.2).map fun entry =>
          ⟨entry.1.1, entry.1.2, Query.total terms entry.1.2, entry.2⟩ := by
    rw [answers, List.filter_map, List.filter_comm]
    rfl
  rw [hsplit, hsplit, documents_of_add h, Pairs.filter_zipIdx_put]

theorem ranking_filter (h : index.add document = .ok (id, next)) {query : Text}
    {sort : Option Text} {ranked reranked : List Match}
    (hr : index.ranking query sort = .ok ranked) (hrr : next.ranking query sort = .ok reranked) :
    reranked.filter (fun m => m.id ≠ id) = ranked.filter fun m => m.id ≠ id := by
  rw [ranking, matching_eq_answers] at hr hrr
  exact Match.arrangement_filter (index.answers_positions _) (next.answers_positions _) hr hrr
    (answers_filter h _)

/-- Marks are made document by document. -/
theorem highlighting_filter (terms : List (List CodePoint)) (shown : List Match) :
    (highlighting terms shown).filter (fun entry => entry.1 ≠ id) =
      highlighting terms (shown.filter fun m => m.id ≠ id) := by
  unfold highlighting
  split
  · rfl
  · rw [List.filter_comm, List.filter_map]
    rfl

/-- With identifiers that differ, at most one match has the given one. -/
theorem length_filter_bounds {ranked : List Match} (hn : (ranked.map (·.id)).Nodup) (id : Text) :
    (ranked.filter fun m => m.id ≠ id).length ≤ ranked.length ∧
      ranked.length ≤ (ranked.filter fun m => m.id ≠ id).length + 1 := by
  have hcount : (ranked.map (·.id)).count id ≤ 1 := List.nodup_iff_count_le_one.mp hn id
  have hsame : (ranked.map (·.id)).count id = (ranked.filter fun m => m.id = id).length := by
    rw [List.count, List.countP_map, List.countP_eq_length_filter]
    rfl
  have hsum : ranked.length = (ranked.filter fun m => m.id = id).length +
      (ranked.filter fun m => m.id ≠ id).length := by
    simpa only [decide_not, ne_eq] using List.length_eq_length_filter_add fun m : Match => m.id = id
  omega

/-- From its beginning on, a search that asks for enough shows the whole ranking. -/
theorem shown_all {request : Search} {ranked : List Match} (ho : request.offset = 0)
    (hr : (ranked.length : Int) ≤ request.rows) : request.shown ranked = ranked := by
  rw [Search.shown_eq (by omega) (by omega), ho]
  apply List.take_of_length_le
  rw [Int.toNat_zero, List.drop_zero]
  omega

end Index

/-- Does the result hold just these documents of the index, each once and with the fields wanted? -/
structure SearchResult.Lists (result : SearchResult) (index : Index)
    (wanted : Option (List Text)) (listed : List (Text × Fields)) : Prop where
  hits : result.page.hits = listed.map fun entry => entry.2.restrict wanted
  found : result.page.found = listed.length
  stored : ∀ entry ∈ listed, entry ∈ index.documents
  distinct : (listed.map (·.1)).Nodup

namespace Index

variable {index next : Index} {document : Fields} {id : Text}

/-- A search that shows all it has found lists its ranking. -/
theorem lists_ranking {request : Search} {ranked : List Match} (hs : index.Sound)
    (h : index.ranking request.query request.sort = .ok ranked) (ho : request.offset = 0)
    (hr : (ranked.length : Int) ≤ request.rows) :
    (request.resultOf ranked).Lists index request.fields
      (ranked.map fun m => (m.id, m.fields)) := by
  constructor
  · simp [Search.resultOf, shown_all ho hr, Function.comp_def]
  · simp [Search.resultOf]
  · intro entry hm
    obtain ⟨m, hranked, rfl⟩ := List.mem_map.mp hm
    exact mem_answers ((ranking_perm h).subset hranked)
  · rw [List.map_map]
    exact ranking_ids_nodup hs h

/-- Where identifiers are loaded, the hits themselves tell which documents are listed. -/
theorem hits_filter {request : Search} {result : SearchResult} {listed : List (Text × Fields)}
    (hs : index.Sound) (hk : request.KeepsIdentifier)
    (h : result.Lists index request.fields listed) (id : Text) :
    result.page.hits.filter (fun hit => hit.documentId? ≠ some id) =
      (listed.filter fun entry => entry.1 ≠ id).map fun entry =>
        entry.2.restrict request.fields := by
  rw [h.hits, List.filter_map]
  congr 1
  apply List.filter_congr
  intro entry hm
  have hid : (entry.2.restrict request.fields).documentId? = some entry.1 := by
    rw [Fields.documentId?, Fields.values_restrict hk]
    exact hs.keyed entry (h.stored entry hm)
  simp [hid]

/-- Adding a document, a new one or one that comes again, disturbs no other: apart from the added
one the same documents are listed in the same order and with the same marks, and at most one more
or one less is found. -/
theorem search_add (documents : List Fields) (document : Fields) (id : Text) (next : Index)
    (request : Search) (before after : SearchResult)
    (hadd : (ofDocuments documents).add document = .ok (id, next))
    (hb : (ofDocuments documents).search request = .ok before)
    (ha : next.search request = .ok after) (ho : request.offset = 0)
    (hbr : before.page.found ≤ request.rows) (har : after.page.found ≤ request.rows) :
    ∃ listed relisted : List (Text × Fields),
      before.Lists (ofDocuments documents) request.fields listed ∧
      after.Lists next request.fields relisted ∧
      relisted.filter (fun entry => entry.1 ≠ id) = listed.filter (fun entry => entry.1 ≠ id) ∧
      (request.KeepsIdentifier →
        after.page.hits.filter (fun hit => hit.documentId? ≠ some id) =
          before.page.hits.filter fun hit => hit.documentId? ≠ some id) ∧
      after.highlighting.filter (fun entry => entry.1 ≠ id) =
        before.highlighting.filter (fun entry => entry.1 ≠ id) ∧
      (after.page.found - before.page.found).natAbs ≤ 1 := by
  have hs := sound_ofDocuments documents
  have hn := sound_add hs hadd
  obtain ⟨ranked, hrank, rfl⟩ := search_eq_ok.mp hb
  obtain ⟨reranked, hrerank, rfl⟩ := search_eq_ok.mp ha
  have hlisted := lists_ranking hs hrank ho hbr
  have hrelisted := lists_ranking hn hrerank ho har
  have hothers := ranking_filter hadd hrank hrerank
  have hsame : (reranked.map fun m => (m.id, m.fields)).filter (fun entry => entry.1 ≠ id) =
      (ranked.map fun m => (m.id, m.fields)).filter fun entry => entry.1 ≠ id := by
    rw [List.filter_map, List.filter_map]
    exact congrArg _ hothers
  refine ⟨_, _, hlisted, hrelisted, hsame, ?_, ?_, ?_⟩
  · intro hk
    rw [hits_filter hs hk hlisted id, hits_filter hn hk hrelisted id, hsame]
  · simp only [Search.resultOf, shown_all ho hbr, shown_all ho har]
    rw [highlighting_filter, highlighting_filter, hothers]
  · obtain ⟨hfew, hmany⟩ := length_filter_bounds (ranking_ids_nodup hs hrank) id
    obtain ⟨hrefew, hremany⟩ := length_filter_bounds (ranking_ids_nodup hn hrerank) id
    rw [hothers] at hrefew hremany
    change ((reranked.length : Int) - ranked.length).natAbs ≤ 1
    omega

/-- Of three teas with the same relevance the middle one comes again; the others stay around it. -/
theorem search_add_middle :
    let black : Fields := [("id", ["a"]), ("title", ["Black tea"])]
    let green : Fields := [("id", ["b"]), ("title", ["Green tea"])]
    let oolong : Fields := [("id", ["b"]), ("title", ["Oolong tea"])]
    let white : Fields := [("id", ["c"]), ("title", ["White tea"])]
    let request : Search := { query := "tea", rows := 3 }
    ∃ next before after, (ofDocuments [black, green, white]).add oolong = .ok ("b", next) ∧
      (ofDocuments [black, green, white]).search request = .ok before ∧
      next.search request = .ok after ∧
      before.page.found ≤ request.rows ∧ after.page.found ≤ request.rows ∧
      before.page.hits = [black, green, white] ∧ after.page.hits = [black, oolong, white] ∧
      after.page.hits.filter (fun hit => hit.documentId? ≠ some ("b" : Text)) =
        before.page.hits.filter (fun hit => hit.documentId? ≠ some ("b" : Text)) ∧
      (after.page.found - before.page.found).natAbs ≤ 1 := by
  intro black green oolong white request
  let next := (ofDocuments [black, green, white]).offer oolong
  have hadd : (ofDocuments [black, green, white]).add oolong = .ok ("b", next) := rfl
  have hranked : (ofDocuments [black, green, white]).ranking "tea" none = .ok _ :=
    ranking_answers (by decide)
  have hreranked : next.ranking "tea" none = .ok _ := ranking_answers (by decide)
  have hb : (ofDocuments [black, green, white]).search request = .ok _ :=
    search_eq_ok.mpr ⟨_, hranked, rfl⟩
  have ha : next.search request = .ok _ := search_eq_ok.mpr ⟨_, hreranked, rfl⟩
  obtain ⟨listed, relisted, -, -, -, hkept, -, hfound⟩ :=
    search_add [black, green, white] oolong "b" next request _ _ hadd hb ha rfl (by decide)
      (by decide)
  have hk : request.KeepsIdentifier := by
    intro names hn
    cases hn
  exact ⟨next, _, _, hadd, hb, ha, by decide, by decide, by decide, by decide, hkept hk, hfound⟩

end Index

end SearchAppliance
