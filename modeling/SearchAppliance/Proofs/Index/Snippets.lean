import SearchAppliance.Proofs.Index.Fragments
import SearchAppliance.Proofs.Index.Marks
import SearchAppliance.Proofs.Page.Projection

namespace SearchAppliance

open Settings (PageOptions)
open Text.Html (Safe)
open Text.LetterCase (StandsIn)

namespace Marking

/-- Does a term stand in the part of a value that a fragment shows? -/
def Matches (terms : List (List CodePoint)) (value : Text) : Prop :=
  ∃ term ∈ terms, StandsIn term (value.toList.take fragmentLimit)

/-- Is it the fragment of the first of some values that match? -/
def FirstFragment (terms : List (List CodePoint)) (values : List Text) (fragment : Text) : Prop :=
  ∃ front value rest, values = front ++ value :: rest ∧ (∀ earlier ∈ front, ¬Matches terms earlier) ∧
    Matches terms value ∧ fragment? terms value = some fragment

/-- The snippet that is due to a hit: the fragment of the first description that matches, else of the
first body that does, else the last description as it is stored. -/
inductive SnippetOf (terms : List (List CodePoint)) (hit : Fields) : Text → Prop
  | description {fragment : Text} :
      FirstFragment terms (hit.values Field.description.name) fragment → SnippetOf terms hit fragment
  | body {fragment : Text} :
      (∀ value ∈ hit.values Field.description.name, ¬Matches terms value) →
      FirstFragment terms (hit.values Field.body.name) fragment → SnippetOf terms hit fragment
  | stored :
      (∀ field ∈ Field.highlighted, ∀ value ∈ hit.values field.name, ¬Matches terms value) →
      SnippetOf terms hit ((hit.values Field.description.name).getLast?.getD "")

variable {terms : List (List CodePoint)}

theorem fragment?_eq_none (hn : ∀ term ∈ terms, term ≠ []) {value : Text} :
    fragment? terms value = none ↔ ¬Matches terms value := by
  rw [Matches, ← isSome_fragment? hn, Bool.not_eq_true, Option.isSome_eq_false_iff,
    Option.isNone_iff_eq_none]

theorem matches_of_fragment (hn : ∀ term ∈ terms, term ≠ []) {value fragment : Text}
    (h : fragment? terms value = some fragment) : Matches terms value := by
  by_contra hno
  rw [(fragment?_eq_none hn).mpr hno] at h
  cases h

theorem firstFragment_iff (hn : ∀ term ∈ terms, term ≠ []) {values : List Text}
    {fragment : Text} :
    FirstFragment terms values fragment ↔
      (values.filterMap (fragment? terms)).head? = some fragment := by
  rw [List.head?_filterMap, List.findSome?_eq_some_iff]
  constructor
  · rintro ⟨front, value, rest, hsplit, hno, -, hf⟩
    exact ⟨front, value, rest, hsplit, hf, fun earlier he =>
      (fragment?_eq_none hn).mpr (hno earlier he)⟩
  · rintro ⟨front, value, rest, hsplit, hf, hno⟩
    exact ⟨front, value, rest, hsplit, fun earlier he => (fragment?_eq_none hn).mp (hno earlier he),
      matches_of_fragment hn hf, hf⟩

theorem filterMap_eq_nil (hn : ∀ term ∈ terms, term ≠ []) {values : List Text} :
    values.filterMap (fragment? terms) = [] ↔ ∀ value ∈ values, ¬Matches terms value := by
  rw [List.filterMap_eq_nil_iff]
  exact forall₂_congr fun value _ => fragment?_eq_none hn

/-- The marked fragments of a document are those of its descriptions, then those of its bodies. -/
theorem fragments_eq (terms : List (List CodePoint)) (fields : Fields) :
    fields.fragments terms =
      (fields.values Field.description.name).filterMap (fragment? terms) ++
        (fields.values Field.body.name).filterMap (fragment? terms) := by
  have hkeep (entries : List (Text × List Text)) :
      (entries.filter fun entry => !entry.2.isEmpty).flatMap (·.2) = entries.flatMap (·.2) := by
    induction entries with
    | nil => rfl
    | cons entry rest ih =>
      obtain ⟨name, fragments⟩ := entry
      cases fragments with
      | nil => exact ih
      | cons fragment more =>
        rw [List.filter_cons_of_pos rfl, List.flatMap_cons, List.flatMap_cons, ih]
  rw [Fields.fragments, highlight, hkeep]
  simp [Field.highlighted]

/-- One snippet is due to each hit. -/
theorem snippetOf_iff (hn : ∀ term ∈ terms, term ≠ []) {hit : Fields} {snippet : Text} :
    SnippetOf terms hit snippet ↔ snippet =
      (hit.fragments terms).head?.getD ((hit.values Field.description.name).getLast?.getD "") := by
  rw [fragments_eq]
  constructor
  · intro h
    cases h with
    | description hf =>
      rw [List.head?_append, (firstFragment_iff hn).mp hf]
      rfl
    | body hno hf =>
      rw [(filterMap_eq_nil hn).mpr hno, List.nil_append, (firstFragment_iff hn).mp hf]
      rfl
    | stored hno =>
      rw [(filterMap_eq_nil hn).mpr (hno .description (by decide)),
        (filterMap_eq_nil hn).mpr (hno .body (by decide))]
      rfl
  · rintro rfl
    cases hd : (hit.values Field.description.name).filterMap (fragment? terms) with
    | cons fragment more =>
      exact .description ((firstFragment_iff hn).mpr (by rw [hd]; rfl))
    | nil =>
      have hnone := (filterMap_eq_nil hn).mp hd
      cases hb : (hit.values Field.body.name).filterMap (fragment? terms) with
      | cons fragment more =>
        exact .body hnone ((firstFragment_iff hn).mpr (by rw [hb]; rfl))
      | nil =>
        refine .stored fun field hf => ?_
        rcases List.mem_pair.mp hf with rfl | rfl
        · exact hnone
        · exact (filterMap_eq_nil hn).mp hb

/-- There are marked fragments exactly if a value that may be marked matches. -/
theorem fragments_ne_nil (hn : ∀ term ∈ terms, term ≠ []) {fields : Fields} :
    fields.fragments terms ≠ [] ↔
      ∃ field ∈ Field.highlighted, ∃ value ∈ fields.values field.name, Matches terms value := by
  rw [fragments_eq, Ne, List.append_eq_nil_iff, filterMap_eq_nil hn, filterMap_eq_nil hn]
  simp only [Field.highlighted, List.mem_cons, List.not_mem_nil, or_false, exists_eq_or_imp,
    exists_eq_left]
  rw [not_and_or]
  push Not
  rfl

theorem safe_of_mem_fragments (hn : ∀ term ∈ terms, term ≠ []) {fields : Fields} {fragment : Text}
    (h : fragment ∈ fields.fragments terms) : Safe fragment.toList := by
  rw [fragments_eq, ← List.filterMap_append, List.mem_filterMap] at h
  obtain ⟨value, -, hf⟩ := h
  obtain ⟨signs, hsigns, -⟩ := readsAs_of_fragment hn hf
  exact Text.Html.safe_of_isSome (by rw [hsigns]; rfl)

end Marking

/-- Are all fields that results are made of among those that are loaded? -/
def Search.LoadsRequested (request : Search) : Prop :=
  ∀ names, request.fields = some names → Field.requested ⊆ names

namespace Index

open Marking (SnippetOf Matches)

variable {terms : List (List CodePoint)} {shown : List Match}

/-- The snippet of a digest is a fragment of the document on the page that it goes by, or else its
own description. -/
theorem snippet_cases (hn : (shown.map (·.id)).Nodup) (d : Digest) :
    (∃ owner ∈ shown, d.documentId = some owner.id ∧
      d.snippet (Snippets.ofHighlighting (highlighting terms shown)) ∈
        owner.fields.fragments terms) ∨
      (¬∃ owner ∈ shown, d.documentId = some owner.id ∧ owner.fields.fragments terms ≠ []) ∧
        d.snippet (Snippets.ofHighlighting (highlighting terms shown)) = d.description := by
  by_cases hm : ∃ owner ∈ shown, d.documentId = some owner.id ∧ owner.fields.fragments terms ≠ []
  · obtain ⟨owner, ho, hid, hne⟩ := hm
    refine Or.inl ⟨owner, ho, hid, ?_⟩
    obtain ⟨fragment, more, hf⟩ := List.exists_cons_of_ne_nil hne
    rw [snippet_of_shown hn ho hid, hf]
    exact List.mem_cons_self
  · refine Or.inr ⟨hm, ?_⟩
    cases hid : d.documentId with
    | none =>
      rw [Digest.snippet, hid]
      rfl
    | some id =>
      by_cases hs : id ∈ shown.map (·.id)
      · obtain ⟨owner, ho, rfl⟩ := List.mem_map.mp hs
        have hempty : owner.fields.fragments terms = [] := by
          by_contra hne
          exact hm ⟨owner, ho, hid, hne⟩
        rw [snippet_of_shown hn ho hid, hempty]
        rfl
      · exact snippet_of_not_shown hs hid

/-- The snippet of a hit comes from the right place. If it has one identifier, the snippet element in
its result holds the snippet that is due to the hit itself, whatever else is on the page. -/
theorem search_snippet (options : PageOptions) (identity : Text) (documents : List Fields)
    (request : Search) (result : SearchResult) (hd : ∀ document ∈ documents, document.Distinct)
    (hk : request.LoadsRequested) (h : (ofDocuments documents).search request = .ok result) :
    let snippets := Snippets.ofHighlighting result.highlighting
    ∀ hit ∈ result.page.hits, ∀ id, hit.values Field.identifier.name = [id] →
      ∀ elements, (hit.elements options snippets identity).outcome = .ok elements →
        ∃ snippet,
          (∀ value, Element.text Tag.snippet.name value ∈ elements ↔ value = some snippet) ∧
          ∀ other, SnippetOf (Query.terms request.query) hit other ↔ other = snippet := by
  intro snippets hit hhit id hid elements helements
  obtain ⟨matched, hnodup, hstored, hhits, hmarks⟩ := search_shown h
  have hdistinct := search_hits_distinct hd h hit hhit
  rw [hhits] at hhit
  obtain ⟨m, hm, rfl⟩ := List.mem_map.mp hhit
  obtain ⟨d, hdigest, rfl⟩ := Outcome.map_eq_ok.mp helements
  let hit := m.fields.restrict request.fields
  have hkeep (field : Field) : hit.values field.name = m.fields.values field.name :=
    Fields.values_restrict fun names hn => hk names hn field.name_mem_requested
  -- The index keys by the first identifier, the digest goes by the last one: here they are the same.
  have hown : d.documentId = some m.id := by
    have hfirst : m.fields.documentId? = some m.id :=
      (sound_ofDocuments documents).keyed _ (hstored m hm)
    rw [Fields.documentId?, ← hkeep, hid] at hfirst
    rw [Digest.ofFields_documentId hdistinct hdigest, hid]
    exact hfirst
  have hfragments : hit.fragments (Query.terms request.query) =
      m.fields.fragments (Query.terms request.query) := by
    rw [Marking.fragments_eq, Marking.fragments_eq, hkeep, hkeep]
  refine ⟨d.snippet snippets, Digest.snippet_mem_elements hdigest snippets identity, ?_⟩
  intro other
  have hsnippet : d.snippet snippets =
      (m.fields.fragments (Query.terms request.query)).head?.getD d.description := by
    rw [← snippet_of_shown hnodup hm hown, ← hmarks]
  rw [Marking.snippetOf_iff (Query.terms_ne_nil request.query), hfragments, hsnippet,
    Digest.ofFields_description hdistinct hdigest]

/-- The second description is the first one that matches. A document that goes by the same identifier
in the end, shown after it, changes nothing. -/
theorem search_snippet_second_description :
    let stored : Fields :=
      [("id", ["a"]), ("description", ["Coffee", "Green tea"]), ("text_t", ["More tea"])]
    let other : Fields := [("id", ["b", "a"]), ("description", ["Black tea"])]
    let request : Search := { query := "tea", fields := some Field.requested }
    (∀ document ∈ [stored, other], document.Distinct) ∧ request.LoadsRequested ∧
      ∃ result, (ofDocuments [stored, other]).search request = .ok result ∧
        result.page.hits = [stored, other] ∧ stored.values "id" = ["a"] ∧
        ∃ elements,
          (stored.elements {} (Snippets.ofHighlighting result.highlighting) "node").outcome =
            .ok elements ∧
          Element.text "S" (some "Green <b>tea</b>") ∈ elements ∧
          SnippetOf (Query.terms "tea") stored "Green <b>tea</b>" := by
  intro stored other request
  have hd : ∀ document ∈ [stored, other], document.Distinct := by decide
  have hk : request.LoadsRequested := by
    intro names hn
    obtain rfl := Option.some.inj hn
    exact List.Subset.refl _
  let found := (ofDocuments [stored, other]).answers (Query.terms request.query)
  have hrank : (ofDocuments [stored, other]).ranking request.query request.sort = .ok found :=
    ranking_answers (by decide)
  have h := search_eq_ok.mpr ⟨found, hrank, rfl⟩
  have hpage : (request.resultOf found).page.hits = [stored, other] := by decide
  have hmem : stored ∈ (request.resultOf found).page.hits := by
    rw [hpage]
    exact List.mem_cons_self
  refine ⟨hd, hk, _, h, hpage, rfl, _, rfl, by decide, ?_⟩
  obtain ⟨snippet, helement, hdue⟩ :=
    search_snippet {} "node" [stored, other] request _ hd hk h stored hmem "a" rfl _ rfl
  rw [hdue]
  exact Option.some.inj ((helement (some "Green <b>tea</b>")).mp (by decide))

/-- When snippets are safe. The snippet element in the result of a hit is safe exactly if a value
matches in the document on the page that is stored under the last identifier of the hit, or the last
description is safe as it is stored. -/
theorem search_snippet_safe_iff (options : PageOptions) (identity : Text)
    (documents : List Fields) (request : Search) (result : SearchResult)
    (hd : ∀ document ∈ documents, document.Distinct)
    (h : (ofDocuments documents).search request = .ok result) :
    let terms := Query.terms request.query
    let snippets := Snippets.ofHighlighting result.highlighting
    ∃ shown : List (Text × Fields),
      (shown.map (·.1)).Nodup ∧ (∀ entry ∈ shown, entry ∈ (ofDocuments documents).documents) ∧
      result.page.hits = shown.map (fun entry => entry.2.restrict request.fields) ∧
      ∀ hit ∈ result.page.hits, ∀ elements,
        (hit.elements options snippets identity).outcome = .ok elements →
          let description := (hit.values Field.description.name).getLast?.getD ""
          let marked := ∃ entry ∈ shown,
            (hit.values Field.identifier.name).getLast? = some entry.1 ∧
              ∃ field ∈ Field.highlighted, ∃ value ∈ entry.2.values field.name, Matches terms value
          ∃ snippet,
            (∀ value, Element.text Tag.snippet.name value ∈ elements ↔ value = some snippet) ∧
            (Safe snippet.toList ↔ marked ∨ Safe description.toList) ∧
            (¬marked → snippet = description) := by
  intro terms snippets
  have hterms : ∀ term ∈ terms, term ≠ [] := Query.terms_ne_nil request.query
  obtain ⟨matched, hnodup, hstored, hhits, hmarks⟩ := search_shown h
  let shown := matched.map fun m => (m.id, m.fields)
  refine ⟨shown, ?_, ?_, ?_, ?_⟩
  · rw [List.map_map]
    exact hnodup
  · intro entry he
    obtain ⟨m, hm, rfl⟩ := List.mem_map.mp he
    exact hstored m hm
  · rw [hhits, List.map_map]
    rfl
  intro hit hhit elements helements description marked
  have hdistinct := search_hits_distinct hd h hit hhit
  obtain ⟨d, hdigest, rfl⟩ := Outcome.map_eq_ok.mp helements
  have hid := Digest.ofFields_documentId hdistinct hdigest
  have hdescription : d.description = description :=
    Digest.ofFields_description hdistinct hdigest
  have hmarked : marked ↔ ∃ owner ∈ matched, d.documentId = some owner.id ∧
      owner.fields.fragments terms ≠ [] := by
    rw [hid]
    constructor
    · rintro ⟨entry, he, hlast, hmatch⟩
      obtain ⟨owner, ho, rfl⟩ := List.mem_map.mp he
      exact ⟨owner, ho, hlast, (Marking.fragments_ne_nil hterms).mpr hmatch⟩
    · rintro ⟨owner, ho, hlast, hne⟩
      exact ⟨_, List.mem_map_of_mem ho, hlast, (Marking.fragments_ne_nil hterms).mp hne⟩
  refine ⟨d.snippet snippets, Digest.snippet_mem_elements hdigest snippets identity, ?_⟩
  rw [hmarked, ← hdescription, show snippets = _ from congrArg Snippets.ofHighlighting hmarks]
  rcases snippet_cases hnodup d with ⟨owner, ho, hown, hf⟩ | ⟨hno, hs⟩
  · have hmatch : ∃ owner ∈ matched, d.documentId = some owner.id ∧
        owner.fields.fragments terms ≠ [] :=
      ⟨owner, ho, hown, List.ne_nil_of_mem hf⟩
    have hsafe := Marking.safe_of_mem_fragments hterms hf
    exact ⟨⟨fun _ => Or.inl hmatch, fun _ => hsafe⟩, fun hno => absurd hmatch hno⟩
  · rw [hs]
    exact ⟨⟨Or.inr, fun hor => hor.resolve_left hno⟩, fun _ => rfl⟩

/-- A snippet that is marked is safe though the description is not. -/
theorem search_snippet_escaped :
    let stored : Fields := [("id", ["a"]), ("description", ["Black <tea>"])]
    (∀ document ∈ [stored], document.Distinct) ∧
      ∃ result, (ofDocuments [stored]).search { query := "tea" } = .ok result ∧
        stored ∈ result.page.hits ∧
        ∃ elements,
          (stored.elements {} (Snippets.ofHighlighting result.highlighting) "node").outcome =
            .ok elements ∧
          Element.text "S" (some "Black &lt;<b>tea</b>&gt;") ∈ elements ∧
          Safe ("Black &lt;<b>tea</b>&gt;" : Text).toList ∧ ¬Safe ("Black <tea>" : Text).toList := by
  intro stored
  have hd : ∀ document ∈ [stored], document.Distinct := by decide
  let found := (ofDocuments [stored]).answers (Query.terms "tea")
  have hrank : (ofDocuments [stored]).ranking "tea" none = .ok found := ranking_answers (by decide)
  have h : (ofDocuments [stored]).search { query := "tea" } = .ok _ :=
    search_eq_ok.mpr ⟨found, hrank, rfl⟩
  have hmem : stored ∈ (Search.resultOf { query := "tea" } found).page.hits := by decide
  have hunsafe : ¬Safe ("Black <tea>" : Text).toList := by decide
  refine ⟨hd, _, h, hmem, _, rfl, by decide, ?_, hunsafe⟩
  obtain ⟨shown, -, -, -, hall⟩ := search_snippet_safe_iff {} "node" [stored] _ _ hd h
  obtain ⟨snippet, helement, hsafe, hplain⟩ := hall stored hmem _ rfl
  obtain rfl : "Black &lt;<b>tea</b>&gt;" = snippet :=
    Option.some.inj ((helement (some "Black &lt;<b>tea</b>&gt;")).mp (by decide))
  rw [hsafe]
  by_contra hno
  exact absurd (hplain fun hmarked => hno (Or.inl hmarked)) (by decide)

/-- A description that stands in for a fragment is not escaped: a word that is found in the title
only shows the markup of the description. -/
theorem search_snippet_raw :
    let stored : Fields :=
      [("id", ["a"]), ("title", ["Tea"]), ("description", ["<i>Black</i> & green"])]
    ∃ result, (ofDocuments [stored]).search { query := "tea" } = .ok result ∧
      stored ∈ result.page.hits ∧
      ∃ elements,
        (stored.elements {} (Snippets.ofHighlighting result.highlighting) "node").outcome =
          .ok elements ∧
        Element.text "S" (some "<i>Black</i> & green") ∈ elements ∧
        ¬Safe ("<i>Black</i> & green" : Text).toList := by
  intro stored
  let found := (ofDocuments [stored]).answers (Query.terms "tea")
  have hrank : (ofDocuments [stored]).ranking "tea" none = .ok found := ranking_answers (by decide)
  have h : (ofDocuments [stored]).search { query := "tea" } = .ok _ :=
    search_eq_ok.mpr ⟨found, hrank, rfl⟩
  exact ⟨_, h, by decide, _, rfl, by decide, by decide⟩

end Index

end SearchAppliance
