import SearchAppliance.Proofs.Index.Reference
import SearchAppliance.Proofs.Page.Characters
import SearchAppliance.Proofs.Page.Limits
import SearchAppliance.Proofs.Service.Run

namespace SearchAppliance.Service

/-- What the index is asked when a search comes with these parameters. -/
def asked (params : List (String × String)) (start rows : Nat) : Search where
  query := ((param? params "q").getD "" : String)
  offset := start
  rows := rows
  sort := requestedClause? ((param? params "sort").map .ofString)
  fields := some Field.requested

/-- The digits of the numeral by which a document is sorted, if its field holds one. -/
def sortDigits? (clause : Text) (fields : Fields) : Option Nat :=
  ((fields.values (SortClause.parse clause).field).head?.bind fun value =>
    Number.Numeral.ofList? value.toList).map (·.digits.length)

/-- No text that the hits of a result show has surrogates. -/
def Encodable (result : SearchResult) : Prop :=
  ∀ hit ∈ result.page.hits,
    ∀ text ∈ hit.shownTexts (Snippets.ofHighlighting result.highlighting), text.isWellFormed = true

/-- Nothing keeps a search from its page or from a reason. No number on the way has too many
digits, the time that has passed is finite, and a page of which every value is taken in can be
encoded. -/
structure WithinLimits (index : Index) (search : Search) (clock : Clock) : Prop where
  keys : ∀ clause, search.sort = some clause →
    ∀ m ∈ index.answers (Query.terms search.query), ∀ n,
      sortDigits? clause m.fields = some n → n ≤ Number.digitLimit
  time : ∃ time, Number.wholePart (clock.span 1) = .ok time
  first : (search.offset + 1).natAbs < Number.numeralBound
  found : (index.answers (Query.terms search.query)).length < Number.numeralBound
  values : ∀ result entry, index.search search = .ok result →
    result.page.refused? {} = some entry → ¬Number.Overlong entry.2
  texts : ∀ result, index.search search = .ok result → result.page.refused? {} = none →
    Encodable result

theorem sortKey_isOk_iff (clause : Text) (fields : Fields) :
    (fields.sortKey (SortClause.parse clause).field).isOk = true ↔
      ∀ n, sortDigits? clause fields = some n → n ≤ Number.digitLimit := by
  unfold Fields.sortKey sortDigits?
  cases (fields.values (SortClause.parse clause).field).head?.bind fun value =>
      Number.Numeral.ofList? value.toList with
  | none => simp [Except.isOk, Except.toBool]
  | some n =>
    unfold Number.Numeral.value
    by_cases h : Number.digitLimit < n.digits.length
    · simp [h, Except.isOk, Except.toBool]
    · simp [h, Except.isOk, Except.toBool]
      omega

theorem requestedClause?_ne_empty {sort : Option Text} {clause : Text}
    (h : requestedClause? sort = some clause) : clause ≠ "" := by
  obtain ⟨raw, -, h⟩ := Option.bind_eq_some_iff.mp h
  obtain ⟨parts, -, h⟩ := Option.bind_eq_some_iff.mp h
  split at h
  · rw [← Option.some.inj h]
    split <;> decide
  · cases h

theorem search_isOk_iff (index : Index) (params : List (String × String)) (start rows : Nat) :
    (∃ result, index.search (asked params start rows) = .ok result) ↔
      ∀ clause, (asked params start rows).sort = some clause →
        ∀ m ∈ index.answers (Query.terms (asked params start rows).query), ∀ n,
          sortDigits? clause m.fields = some n → n ≤ Number.digitLimit := by
  rw [← Outcome.isOk_iff, Index.search_isOk]
  cases hc : (asked params start rows).sort with
  | none => simp
  | some clause =>
    have hne := requestedClause?_ne_empty hc
    rw [Option.filter_some_pos (by simpa using hne)]
    simp only [List.all_eq_true, sortKey_isOk_iff]
    constructor
    · intro h clause' he
      cases he
      exact h
    · intro h
      exact h clause rfl

/-- Of the numbers on a page that was searched for, the first rank and the count are the largest. -/
theorem writable_iff {index : Index} {search : Search} {result : SearchResult}
    (ho : 0 ≤ search.offset) (hr : 0 ≤ search.rows) (hrows : search.rows ≤ 1000)
    (h : index.search search = .ok result) :
    result.page.Writable ↔ (search.offset + 1).natAbs < Number.numeralBound ∧
      (index.answers (Query.terms search.query)).length < Number.numeralBound := by
  obtain ⟨ranked, hrank, rfl⟩ := Index.search_eq_ok.mp h
  have hlimit := Number.thousand_lt_numeralBound
  have hsize := Search.hits_length ho hr ranked
  rw [← (Index.ranking_perm hrank).length_eq]
  have hlast : search.offset + ((search.resultOf ranked).page.hits.length : Int) ≤
      max search.offset ranked.length := by
    rw [hsize, Page.expectedSize]
    split <;> omega
  constructor
  · intro hw
    have hfound := hw.found
    exact ⟨hw.first, hfound⟩
  · rintro ⟨hfirst, hfound⟩
    have hstart : search.offset.natAbs < Number.numeralBound := by omega
    have hcount : search.rows.natAbs < Number.numeralBound := by omega
    have hend : (search.offset + ((search.resultOf ranked).page.hits.length : Int)).natAbs <
        Number.numeralBound := by omega
    exact ⟨hstart, hcount, hfirst, hend, hfound⟩

/-- The answer is the whole page of the hits that were found, or it names a field of these and a
value that it cannot use. -/
def Contained (index : Index) (search : Search) (response : Response) : Prop :=
  ∃ result, index.search search = .ok result ∧
    ((∃ content, response.status = 200 ∧ response.contentType = Page.contentType ∧
        response.content = .text content ∧ result.page.Complete content) ∨
      ∃ entry ∈ result.page.hits.flatMap Fields.entries,
        response.status = 500 ∧ response.contentType = "application/json" ∧
          response.content =
            .json (.obj [("detail", .str (Failure.malformedField entry.1 entry.2).message)]))

/-- The answer says nothing but that there was an error. -/
def Unexplained (response : Response) : Prop :=
  response.status = 500 ∧ response.contentType = "text/plain; charset=utf-8" ∧
    response.content = .text "Internal Server Error"

theorem not_contained_of_unexplained {index : Index} {search : Search} {response : Response}
    (h : Unexplained response) : ¬Contained index search response := by
  obtain ⟨hs, ht, -⟩ := h
  rintro ⟨result, -, ⟨content, hs', -⟩ | ⟨entry, -, -, ht', -⟩⟩
  · rw [hs] at hs'
    cases hs'
  · rw [ht] at ht'
    exact absurd ht' (by decide)

variable {index : Index} {identity : Text} {clock : Clock} {params : List (String × String)}
  {caller : Option String} {start rows : Nat}

/-- The document of a result, as an answer to the search sends it. -/
def written (identity : Text) (clock : Clock) (params : List (String × String))
    (caller : Option String) (result : SearchResult) : Logged String :=
  result.page.assemble {} (Snippets.ofHighlighting result.highlighting) (echoed params caller)
    identity clock

/-- The answer that a document makes, or the failure to write it. -/
def answer (query : String) (document : Logged String) : Response :=
  match document.outcome with
  | .ok content => ⟨200, Page.contentType, .text content, document.events⟩
  | .error cause =>
    if cause.isMalformedField then
      { Response.detail 500 cause.message with
        events := document.events ++ [.pageRefused query cause] }
    else { Response.internalError with events := document.events }

/-- A search whose parameters are in order asks the index and answers with the document of what it
gives. -/
theorem searchPage_eq (h : windowParams params = .ok (start, rows)) :
    searchPage (.own index) identity clock params caller =
      match index.search (asked params start rows) with
      | .error _ => .internalError
      | .ok result =>
        answer ((param? params "q").getD "") (written identity clock params caller result) := by
  unfold searchPage
  rw [h]
  rfl

theorem answer_ok {query content : String} {document : Logged String}
    (h : document.outcome = .ok content) :
    answer query document = ⟨200, Page.contentType, .text content, document.events⟩ := by
  rw [answer, h]

theorem answer_malformed {query : String} {document : Logged String} {cause : Failure}
    (h : document.outcome = .error cause) (hc : cause.isMalformedField = true) :
    answer query document =
      { Response.detail 500 cause.message with
        events := document.events ++ [.pageRefused query cause] } := by
  rw [answer, h]
  exact if_pos hc

theorem answer_unexplained {query : String} {document : Logged String} {cause : Failure}
    (h : document.outcome = .error cause) (hc : cause.isMalformedField = false) :
    Unexplained (answer query document) := by
  rw [answer, h]
  simp only [hc]
  exact ⟨rfl, rfl, rfl⟩

theorem asked_window (h : windowParams params = .ok (start, rows)) :
    0 ≤ (asked params start rows).offset ∧ 0 ≤ (asked params start rows).rows ∧
      (asked params start rows).rows ≤ 1000 := by
  have hrows := windowParams_rows h
  refine ⟨Int.natCast_nonneg start, Int.natCast_nonneg rows, ?_⟩
  change (rows : Int) ≤ 1000
  omega

theorem strict_usual : Settings.PageOptions.strictNumbers {} = true := rfl

theorem plain_usual : Settings.PageOptions.encodeAddress {} = false := rfl

theorem isWellFormed_echoed {text : Text} (h : text ∈ (echoed params caller).texts) :
    text.isWellFormed = true := by
  simp only [EchoedRequest.texts, echoed, List.flatMap_cons, List.flatMap_nil, List.append_nil,
    List.mem_append, Option.mem_toList, Option.map_eq_some_iff,
    Option.some_inj] at h
  rcases h with rfl | ⟨s, -, rfl⟩ | ⟨s, -, rfl⟩ | ⟨s, -, rfl⟩ | ⟨s, -, rfl⟩ | ⟨s, -, rfl⟩ |
    ⟨s, -, rfl⟩
  all_goals exact Text.isWellFormed_ofString _

/-- What a page shows beside the texts of its hits has no surrogates. -/
theorem shownTexts_isWellFormed (page : Page) (snippets : Snippets) (identity : String) :
    (∀ text ∈ page.shownTexts {} snippets (echoed params caller) identity,
        text.isWellFormed = true) ↔
      ∀ hit ∈ page.hits, ∀ text ∈ hit.shownTexts snippets, text.isWellFormed = true := by
  constructor
  · intro h hit hm text ht
    exact h text (List.mem_append_right _
      (List.mem_flatMap.mpr ⟨hit, hm, List.mem_cons_of_mem _ ht⟩))
  · intro h text ht
    rw [Page.shownTexts, List.cons_append, List.mem_cons, List.mem_append, List.mem_flatMap] at ht
    rcases ht with rfl | ht | ⟨hit, hm, ht⟩
    · exact Text.isWellFormed_ofString _
    · exact isWellFormed_echoed ht
    · rcases List.mem_cons.mp ht with rfl | ht
      · exact Text.isWellFormed_ofString _
      · exact h hit hm text ht

/-- A result whose texts can be given is sent exactly if its hits show no surrogates. -/
theorem written_isOk {identity : String} {result : SearchResult} {ts : List Text}
    (hts : result.page.texts {} (Snippets.ofHighlighting result.highlighting)
      (echoed params caller) identity (clock.span 1) = .ok ts) :
    (written identity clock params caller result).outcome.isOk = true ↔ Encodable result := by
  have hdocument : (result.page.document {} (Snippets.ofHighlighting result.highlighting)
      (echoed params caller) identity clock).outcome = .ok (Text.join ts) := by
    rw [Page.document_outcome, hts]
    rfl
  rw [written, Page.assemble_isOk rfl hdocument, shownTexts_isWellFormed]
  rfl

theorem contained_of_limits (identity : String) (caller : Option String)
    (h : windowParams params = .ok (start, rows))
    (hl : WithinLimits index (asked params start rows) clock) :
    Contained index (asked params start rows)
      (searchPage (.own index) identity clock params caller) := by
  obtain ⟨result, hs⟩ := (search_isOk_iff index params start rows).mpr hl.keys
  obtain ⟨ho, hr, hrows⟩ := asked_window h
  have hw := (writable_iff ho hr hrows hs).mpr ⟨hl.first, hl.found⟩
  obtain ⟨time, ht⟩ := hl.time
  have hanswer : searchPage (.own index) identity clock params caller =
      answer ((param? params "q").getD "") (written identity clock params caller result) := by
    rw [searchPage_eq h, hs]
  refine ⟨result, hs, ?_⟩
  rcases Page.texts_or_refused strict_usual plain_usual hw ht
      fun entry he => hl.values result entry hs he
    with ⟨hnone, ts, hts⟩ | ⟨entry, he, hts⟩
  · obtain ⟨content, hc⟩ := Outcome.isOk_iff.mp ((written_isOk hts).mpr (hl.texts result hs hnone))
    have hcontent := Page.document_of_assemble hc
    rw [Page.document_outcome, hts] at hcontent
    rw [hanswer, answer_ok hc]
    exact Or.inl ⟨_, rfl, rfl, rfl, Except.ok.inj hcontent ▸ Page.complete_of_texts hts⟩
  · have hd : (written identity clock params caller result).outcome =
        .error (.malformedField entry.1 entry.2) := by
      rw [written, Page.assemble_outcome, hts]
      rfl
    rw [hanswer, answer_malformed hd rfl, Response.detail_eq]
    exact Or.inr ⟨entry, List.mem_of_find?_eq_some he, rfl, rfl, rfl⟩

theorem withinLimits_of_result {result : SearchResult}
    (h : windowParams params = .ok (start, rows))
    (hs : index.search (asked params start rows) = .ok result) (hw : result.page.Writable)
    (ht : ∃ time, Number.wholePart (clock.span 1) = .ok time)
    (hv : ∀ entry, result.page.refused? {} = some entry → ¬Number.Overlong entry.2)
    (htexts : result.page.refused? {} = none → Encodable result) :
    WithinLimits index (asked params start rows) clock := by
  obtain ⟨ho, hr, hrows⟩ := asked_window h
  obtain ⟨hfirst, hfound⟩ := (writable_iff ho hr hrows hs).mp hw
  refine ⟨(search_isOk_iff index params start rows).mp ⟨result, hs⟩, ht, hfirst, hfound, ?_, ?_⟩
  · intro other entry hother
    obtain rfl := Except.ok.inj (hs.symm.trans hother)
    exact hv entry
  · intro other hother
    obtain rfl := Except.ok.inj (hs.symm.trans hother)
    exact htexts

/-- Outside the limits the document of a result fails, and no value is named. -/
theorem written_fails (identity : String) (caller : Option String) {result : SearchResult}
    (h : windowParams params = .ok (start, rows))
    (hs : index.search (asked params start rows) = .ok result)
    (hl : ¬WithinLimits index (asked params start rows) clock) :
    ∃ cause, (written identity clock params caller result).outcome = .error cause ∧
      cause.isMalformedField = false := by
  by_cases hin : result.page.Writable ∧ (∃ time, Number.wholePart (clock.span 1) = .ok time) ∧
      ∀ entry, result.page.refused? {} = some entry → ¬Number.Overlong entry.2
  · obtain ⟨hw, ⟨time, ht⟩, hv⟩ := hin
    have hbad : ¬(result.page.refused? {} = none → Encodable result) :=
      fun htexts => hl (withinLimits_of_result h hs hw ⟨time, ht⟩ hv htexts)
    rw [Classical.not_imp] at hbad
    rcases Page.texts_or_refused strict_usual plain_usual hw ht hv
      with ⟨-, ts, hts⟩ | ⟨entry, he, -⟩
    · cases houtcome : (written identity clock params caller result).outcome with
      | ok content =>
        exact absurd ((written_isOk hts).mp (Outcome.isOk_iff.mpr ⟨content, houtcome⟩)) hbad.2
      | error cause =>
        rw [written, Page.assemble_outcome, hts] at houtcome
        obtain ⟨-, rfl⟩ := Text.encode_eq_error.mp houtcome
        exact ⟨_, rfl, rfl⟩
    · rw [hbad.1] at he
      cases he
  · obtain ⟨cause, hts, hc⟩ := Page.texts_unnamed strict_usual plain_usual hin
    refine ⟨cause, ?_, hc⟩
    rw [written, Page.assemble_outcome, hts]
    rfl

theorem unexplained_of_not_limits (identity : String) (caller : Option String)
    (h : windowParams params = .ok (start, rows))
    (hl : ¬WithinLimits index (asked params start rows) clock) :
    Unexplained (searchPage (.own index) identity clock params caller) := by
  rw [searchPage_eq h]
  cases hs : index.search (asked params start rows) with
  | error cause => exact ⟨rfl, rfl, rfl⟩
  | ok result =>
    obtain ⟨cause, hd, hc⟩ := written_fails identity caller h hs hl
    exact answer_unexplained hd hc

/-- After any requests, a search whose parameters are in order is answered with the whole page, or
with the value that it cannot use, exactly within the limits, and else with an unexplained error. -/
theorem searchPage_contained_iff (runClock : Clock) (requests : List Request)
    (identity : String) (clock : Clock) (params : List (String × String)) (caller : Option String)
    (start rows : Nat) (h : windowParams params = .ok (start, rows)) :
    ∃ documents, Offered requests documents ∧
      after identity runClock requests = .own (Index.ofDocuments documents) ∧
      let index := Index.ofDocuments documents
      let search := asked params start rows
      let response := searchPage (after identity runClock requests) identity clock params caller
      (Contained index search response ↔ WithinLimits index search clock) ∧
        (Contained index search response ∨ Unexplained response) := by
  obtain ⟨documents, hoffered, hd⟩ := after_own identity runClock requests
  refine ⟨documents, hoffered, hd, ?_⟩
  rw [hd]
  by_cases hl : WithinLimits (Index.ofDocuments documents) (asked params start rows) clock
  · have hc := contained_of_limits identity caller h hl
    exact ⟨⟨fun _ => hl, fun _ => hc⟩, Or.inl hc⟩
  · have hu := unexplained_of_not_limits identity caller h hl
    exact ⟨⟨fun hc => absurd hc (not_contained_of_unexplained hu), fun hc => absurd hc hl⟩,
      Or.inr hu⟩

/-- The body of a request that adds a document with one field beside its identifier. -/
def bodyWith (field value : Text) : Json :=
  .obj [("fields", .obj [("id", .str "a"), (field, .str value)])]

/-- A size that is no number is named in the answer. -/
theorem searchPage_unusable_size :
    let clock := Clock.ofList [0.0]
    let engine := after "node" clock [.add (bodyWith "size_i" "12x")]
    windowParams [] = .ok (0, 10) ∧
      ∃ documents, engine = .own (Index.ofDocuments documents) ∧
        Contained (Index.ofDocuments documents) (asked [] 0 10)
          (searchPage engine "node" clock [] none) := by
  intro clock engine
  have hwindow : windowParams [] = .ok (0, 10) := rfl
  refine ⟨hwindow, ?_⟩
  obtain ⟨documents, -, hd, hiff, -⟩ := searchPage_contained_iff clock
    [.add (bodyWith "size_i" "12x")] "node" clock [] none 0 10 hwindow
  refine ⟨documents, hd, hiff.mpr ?_⟩
  have hindex : Index.ofDocuments documents =
      { documents := [("a", [("id", ["a"]), ("size_i", ["12x"])])] } :=
    Engine.own.inj (hd.symm.trans rfl)
  rw [hindex]
  have hrefused (result : SearchResult)
      (hs : Index.search { documents := [("a", [("id", ["a"]), ("size_i", ["12x"])])] }
        (asked [] 0 10) = .ok result) :
      result.page.refused? {} = some (("size_i" : Text), ("12x" : Text)) := by
    obtain ⟨ranked, hrank, rfl⟩ := Index.search_eq_ok.mp hs
    have hone : ranked = [⟨"a", [("id", ["a"]), ("size_i", ["12x"])], 0, 0⟩] :=
      List.perm_singleton.mp (Index.ranking_perm hrank)
    subst hone
    rfl
  refine ⟨?_, ⟨0, by decide +kernel⟩, by decide +kernel, by decide +kernel, ?_, ?_⟩
  · intro clause hc
    cases hc
  · intro result entry hs hr
    obtain rfl := Option.some.inj ((hrefused result hs).symm.trans hr)
    rintro ⟨n, hn, -⟩
    cases hn
  · intro result hs hnone
    rw [hrefused result hs] at hnone
    cases hnone

theorem sortDigits?_replicate {n : Nat} (h : n ≠ 0) (id : Text) :
    sortDigits? "last_modified desc"
      [("id", [id]), ("last_modified", [Text.ofList (List.replicate n '9')])] = some n := by
  have hdigits := (Number.read_nines h).1
  have hvalue : (Fields.values
      [("id", [id]), ("last_modified", [Text.ofList (List.replicate n '9')])]
      (SortClause.parse "last_modified desc").field).head? =
        some (Text.ofList (List.replicate n '9')) := rfl
  rw [sortDigits?, hvalue, Option.bind_some, Text.toList_ofList, hdigits]
  simp

/-- A date of 4301 digits is not named when the search sorts by it. -/
theorem search_overlong_date :
    let clock := Clock.ofList [0.0]
    let params := [("sort", "date:D:S:d1")]
    let date := Text.ofList (List.replicate 4301 '9')
    let engine := after "node" clock [.add (bodyWith "last_modified" date)]
    windowParams params = .ok (0, 10) ∧
      ∃ index, engine = .own index ∧
        Unexplained (searchPage engine "node" clock params none) ∧
        ¬Contained index (asked params 0 10) (searchPage engine "node" clock params none) := by
  intro clock params date engine
  have hwindow : windowParams params = .ok (0, 10) := rfl
  have hengine : engine =
      .own { documents := [("a", [("id", ["a"]), ("last_modified", [date])])] } := rfl
  refine ⟨hwindow, _, hengine, ?_⟩
  rw [hengine]
  have hnot : ¬WithinLimits { documents := [("a", [("id", ["a"]), ("last_modified", [date])])] }
      (asked params 0 10) clock := by
    intro hl
    have hkey := hl.keys "last_modified desc" rfl
      ⟨"a", [("id", ["a"]), ("last_modified", [date])], 0, 0⟩ (List.mem_singleton_self _) 4301
      (sortDigits?_replicate (by decide) "a")
    exact absurd hkey (by decide)
  have hu := unexplained_of_not_limits "node" none hwindow hnot
  exact ⟨hu, not_contained_of_unexplained hu⟩

end SearchAppliance.Service
