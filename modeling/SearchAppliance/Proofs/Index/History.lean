import Mathlib.Data.Finset.Card
import Mathlib.Data.List.TakeWhile
import SearchAppliance.Proofs.Index.Store

namespace SearchAppliance

/-- Does the document have a value that identifies it? -/
def Fields.isIdentified (fields : Fields) : Bool := fields.documentId?.isSome

/-- What is asked of an index: to add one document, or several in order. -/
inductive Addition where
  | one (document : List (Text × Given))
  | several (documents : List (List (Text × Given)))

namespace Addition

def documents : Addition → List Fields
  | one document => [Fields.ofGiven document]
  | several documents => documents.map Fields.ofGiven

/-- The documents that are accepted: those before the first one without an identifier. -/
def accepted (addition : Addition) : List Fields :=
  addition.documents.takeWhile Fields.isIdentified

end Addition

namespace Index

/-- The index after an addition, whether that succeeds or fails. -/
def perform (index : Index) : Addition → Index
  | .one document => index.offer (Fields.ofGiven document)
  | .several documents => (index.addAll (documents.map Fields.ofGiven)).2

/-- The index after additions to an empty one, in order. -/
def ofAdditions (additions : List Addition) : Index := additions.foldl perform {}

/-- The last one of the documents that has the identifier. -/
def latest? (documents : List Fields) (id : Text) : Option Fields :=
  documents.reverse.find? fun document => document.documentId? = some id

variable {index : Index} {document : Fields}

theorem add_of_isNone (h : document.documentId? = none) :
    index.add document = .error (.missingField Field.identifier.name) ∧
      index.offer document = index := by
  simp [offer, add, h]

theorem add_of_isSome {id : Text} (h : document.documentId? = some id) :
    index.add document = .ok (id, index.offer document) ∧
      (index.offer document).documents = Pairs.put id document index.documents := by
  simp [offer, add, h]

/-- Adding several documents is adding those before the first one without an identifier, one by one;
it succeeds if there is no such one. -/
theorem addAll_eq (index : Index) (documents : List Fields) :
    index.addAll documents =
      (if documents.all Fields.isIdentified then .ok (documents.filterMap Fields.documentId?)
        else .error (.missingField Field.identifier.name),
      (documents.takeWhile Fields.isIdentified).foldl offer index) := by
  induction documents generalizing index with
  | nil => rfl
  | cons document rest ih =>
    cases hid : document.documentId? with
    | none =>
      have hno : document.isIdentified = false := by simp [Fields.isIdentified, hid]
      simp [addAll, (add_of_isNone hid).1, hno]
    | some id =>
      have hyes : document.isIdentified = true := by simp [Fields.isIdentified, hid]
      simp only [addAll, (add_of_isSome hid).1, ih, List.all_cons, hyes, Bool.true_and,
        List.filterMap_cons, hid, List.takeWhile_cons, if_true, List.foldl_cons]
      split <;> rfl

theorem offer_takeWhile (index : Index) (document : Fields) :
    index.offer document = ([document].takeWhile Fields.isIdentified).foldl offer index := by
  cases hid : document.documentId? with
  | none => simp [Fields.isIdentified, hid, (add_of_isNone hid).2]
  | some id => simp [Fields.isIdentified, hid]

/-- An addition is to offer the documents that it accepts. -/
theorem perform_eq (index : Index) (addition : Addition) :
    index.perform addition = addition.accepted.foldl offer index := by
  cases addition with
  | one document => exact index.offer_takeWhile _
  | several documents =>
    rw [perform, addAll_eq]
    rfl

theorem ofAdditions_eq (additions : List Addition) :
    ofAdditions additions = ofDocuments (additions.flatMap Addition.accepted) := by
  rw [ofAdditions, ofDocuments, List.foldl_flatMap]
  congr 1
  funext index addition
  exact index.perform_eq addition

theorem eraseDups_concat (ids : List Text) (id : Text) :
    (ids ++ [id]).eraseDups = if id ∈ ids then ids.eraseDups else ids.eraseDups ++ [id] := by
  rw [List.eraseDups_append]
  by_cases h : id ∈ ids
  · simp [List.removeAll, h]
  · simp [List.removeAll, h, List.eraseDups_cons]

theorem ofDocuments_concat (documents : List Fields) (document : Fields) :
    ofDocuments (documents ++ [document]) = (ofDocuments documents).offer document :=
  List.foldl_concat ..

/-- Identifiers stand in the order in which they came first. -/
theorem keys_ofDocuments (documents : List Fields) :
    (ofDocuments documents).documents.map (·.1) =
      (documents.filterMap Fields.documentId?).eraseDups := by
  induction documents using List.reverseRecOn with
  | nil => rfl
  | append_singleton documents document ih =>
    rw [ofDocuments_concat, List.filterMap_append]
    cases hid : document.documentId? with
    | none => simp [hid, (add_of_isNone hid).2, ih]
    | some id =>
      rw [(add_of_isSome hid).2, Pairs.keys_put, ih]
      simp only [List.filterMap_cons, hid, List.filterMap_nil, eraseDups_concat,
        List.mem_eraseDups]

/-- As many documents are held as different identifiers came. -/
theorem size_ofDocuments (documents : List Fields) :
    (ofDocuments documents).size = (documents.filterMap Fields.documentId?).toFinset.card := by
  have hset : (documents.filterMap Fields.documentId?).toFinset =
      ((ofDocuments documents).documents.map (·.1)).toFinset := by
    rw [keys_ofDocuments]
    ext id
    simp
  rw [hset, List.toFinset_card_of_nodup (sound_ofDocuments documents).nodup, List.length_map]
  rfl

/-- Under an identifier stands the document that came with it last. -/
theorem get?_ofDocuments (documents : List Fields) (id : Text) :
    Pairs.get? id (ofDocuments documents).documents = latest? documents id := by
  induction documents using List.reverseRecOn with
  | nil => rfl
  | append_singleton documents document ih =>
    rw [ofDocuments_concat, latest?, List.reverse_append, List.reverse_singleton,
      List.singleton_append, List.find?_cons]
    cases hid : document.documentId? with
    | none =>
      rw [(add_of_isNone hid).2, ih]
      simp [latest?]
    | some other =>
      rw [(add_of_isSome hid).2]
      by_cases ho : other = id
      · subst ho
        simp [Pairs.get?_put_self]
      · rw [Pairs.get?_put_of_ne (Ne.symm ho), ih]
        simp [latest?, ho]

theorem isIdentified_iff {document : Fields} :
    document.isIdentified = true ↔ document.values Field.identifier.name ≠ [] := by
  rw [Fields.isIdentified, Fields.documentId?, List.isSome_head?]

theorem add_isOk (index : Index) (document : Fields) :
    (index.add document).isOk = document.isIdentified := by
  unfold Fields.isIdentified
  cases hid : document.documentId? with
  | none =>
    rw [(add_of_isNone hid).1]
    rfl
  | some id =>
    rw [(add_of_isSome hid).1]
    rfl

/-- Several documents are added if all of them have an identifier. -/
theorem addAll_of_ok {documents : List Fields} {ids : List Text} {next : Index}
    (h : index.addAll documents = (.ok ids, next)) :
    documents.map Fields.documentId? = ids.map some ∧ next = documents.foldl offer index := by
  obtain ⟨hids, rfl⟩ := Prod.mk.inj ((index.addAll_eq documents).symm.trans h)
  split at hids
  · next hall =>
    have hall := List.all_eq_true.mp hall
    obtain rfl := Except.ok.inj hids
    refine ⟨?_, by rw [List.takeWhile_eq_self_iff.mpr hall]⟩
    rw [List.map_filterMap_some_eq_filter_map_isSome, List.filter_eq_self.mpr]
    intro id hm
    obtain ⟨document, hd, rfl⟩ := List.mem_map.mp hm
    exact hall document hd
  · cases hids

/-- Otherwise those before the first one without an identifier are added. -/
theorem addAll_of_error {documents : List Fields} {cause : Failure} {next : Index}
    (h : index.addAll documents = (.error cause, next)) :
    ∃ front failing rest, documents = front ++ failing :: rest ∧
      (∀ document ∈ front, document.isIdentified = true) ∧
      index.add failing = .error cause ∧ next = front.foldl offer index := by
  obtain ⟨hcause, rfl⟩ := Prod.mk.inj ((index.addAll_eq documents).symm.trans h)
  split at hcause
  · cases hcause
  · next hall =>
    obtain rfl := Except.error.inj hcause
    cases hback : documents.dropWhile Fields.isIdentified with
    | nil => exact absurd (List.all_eq_true.mpr (List.dropWhile_eq_nil_iff.mp hback)) hall
    | cons failing rest =>
      have hno : failing.isIdentified = false := by
        have hhead := List.head?_dropWhile_not Fields.isIdentified documents
        rw [hback] at hhead
        exact hhead
      have hid : failing.documentId? = none := by simpa [Fields.isIdentified] using hno
      refine ⟨documents.takeWhile Fields.isIdentified, failing, rest, ?_, ?_, ?_, rfl⟩
      · rw [← hback, List.takeWhile_append_dropWhile]
      · intro document hm
        exact List.mem_takeWhile_imp hm
      · exact (add_of_isNone hid).1

/-- The index after any history of additions holds for each identifier the last document that was
accepted, in the order in which the identifiers came first. -/
theorem ofAdditions_holds (additions : List Addition) :
    let index := ofAdditions additions
    let accepted := additions.flatMap Addition.accepted
    let ids := accepted.filterMap Fields.documentId?
    (∀ key stored, (key, stored) ∈ index.documents →
      ∃ more, stored.values Field.identifier.name = key :: more) ∧
    (index.documents.map (·.1)).Nodup ∧
    index.documents.map (·.1) = ids.eraseDups ∧
    (∀ id, Pairs.get? id index.documents = latest? accepted id) ∧
    index.size = ids.toFinset.card ∧
    (∀ document : Fields, (index.add document).isOk = true ↔
      document.values Field.identifier.name ≠ []) ∧
    (∀ document cause, index.add document = .error cause →
      cause = .missingField Field.identifier.name ∧ index.offer document = index) ∧
    (∀ documents ids next, index.addAll documents = (.ok ids, next) →
      documents.map Fields.documentId? = ids.map some ∧ next = documents.foldl offer index) ∧
    ∀ documents cause next, index.addAll documents = (.error cause, next) →
      ∃ front failing rest, documents = front ++ failing :: rest ∧
        (∀ document ∈ front, document.values Field.identifier.name ≠ []) ∧
        index.add failing = .error cause ∧ next = front.foldl offer index := by
  intro index accepted ids
  have hsame : index = ofDocuments accepted := ofAdditions_eq additions
  have hs : index.Sound := hsame ▸ sound_ofDocuments accepted
  have hkeys : index.documents.map (·.1) = ids.eraseDups := by
    rw [hsame]
    exact keys_ofDocuments accepted
  refine ⟨?_, hs.nodup, hkeys, ?_, ?_, ?_, ?_, fun _ _ _ h => addAll_of_ok h, ?_⟩
  · intro key stored hm
    have hid : (stored.values Field.identifier.name).head? = some key := hs.keyed _ hm
    exact List.head?_eq_some_iff.mp hid
  · intro id
    rw [hsame]
    exact get?_ofDocuments accepted id
  · rw [hsame]
    exact size_ofDocuments accepted
  · intro document
    rw [add_isOk]
    exact isIdentified_iff
  · intro document cause h
    cases hid : document.documentId? with
    | none =>
      obtain ⟨hadd, hoffer⟩ := @add_of_isNone index document hid
      exact ⟨Except.error.inj (h.symm.trans hadd), hoffer⟩
    | some id =>
      rw [(add_of_isSome hid).1] at h
      cases h
  · intro documents cause next h
    obtain ⟨front, failing, rest, hsplit, hfront, hfailing, hnext⟩ := addAll_of_error h
    refine ⟨front, failing, rest, hsplit, ?_, hfailing, hnext⟩
    intro document hm
    exact isIdentified_iff.mp (hfront document hm)

/-- A tea that is added again keeps its place before the one that came between, and the third one is
not reached. -/
example :
    (ofAdditions [
      .one [("id", .one "a"), ("title", .one "Assam")],
      .several [[("id", .many ["b", "a"])], [("id", .many []), ("title", .one "Ceylon")],
        [("id", .one "c")]],
      .one [("id", .one "a"), ("title", .many ["Darjeeling", "tea"])]]).documents = [
    (("a" : Text), ([("id", ["a"]), ("title", ["Darjeeling", "tea"])] : Fields)),
    ("b", [("id", ["b", "a"])])] := by decide

end Index

end SearchAppliance
