import SearchAppliance.Proofs.Page.Pieces
import SearchAppliance.Proofs.Service.Search

namespace SearchAppliance

open Settings (PageOptions)

namespace Page

variable {options : PageOptions} {snippets : Snippets} {request : EchoedRequest}
  {identity : Text} {page : Page} {elapsed : Float} {ts : List Text}

/-- A page begins with the time and the query. The first parameter that it repeats is the sort
expression, if there is one, and the next one is the output. -/
theorem texts_sort (h : page.texts options snippets request identity elapsed = .ok ts) :
    ∃ (time : Int) (rest : List Text), ts =
      [(prolog : Text)] ++ (Element.line? "TM" (some (toString time : String))).toList
        ++ (Element.line? "Q" request.query).toList
        ++ (Element.param? options.escapeEcho "sort" request.sort).toList
        ++ (Element.param? options.escapeEcho "output" (some outputMode)).toList ++ rest := by
  have hcons (name : Text) (value : Option Text) (more : List (Text × Option Text)) :
      ((name, value) :: more).filterMap
        (fun param => Element.param? options.escapeEcho param.1 param.2) =
        (Element.param? options.escapeEcho name value).toList ++
          more.filterMap fun param => Element.param? options.escapeEcho param.1 param.2 := by
    rw [List.filterMap_cons]
    cases Element.param? options.escapeEcho name value <;> rfl
  obtain ⟨header, hheader, h⟩ := Outcome.bind_eq_ok.mp h
  obtain ⟨bs, -, h⟩ := Outcome.bind_eq_ok.mp h
  obtain ⟨time, -, hheader⟩ := Outcome.bind_eq_ok.mp hheader
  obtain ⟨params, hparams, hheader⟩ := Outcome.bind_eq_ok.mp hheader
  obtain ⟨opening, -, hheader⟩ := Outcome.bind_eq_ok.mp hheader
  obtain ⟨found, -, hheader⟩ := Outcome.bind_eq_ok.mp hheader
  obtain ⟨link, -, hheader⟩ := Outcome.bind_eq_ok.mp hheader
  obtain ⟨start, -, hparams⟩ := Outcome.bind_eq_ok.mp hparams
  obtain ⟨rows, -, hparams⟩ := Outcome.bind_eq_ok.mp hparams
  rw [← Outcome.pure_eq_ok.mp h, ← Outcome.pure_eq_ok.mp hheader, ← Outcome.pure_eq_ok.mp hparams,
    hcons, hcons, param?_sortOf]
  simp only [List.append_assoc]
  exact ⟨time, _, rfl⟩

end Page

namespace Service

theorem outcome_of_answer {query content : String} {document : Logged String}
    (hs : (answer query document).status = 200)
    (hc : (answer query document).content = .text content) : document.outcome = .ok content := by
  unfold answer at hs hc
  cases ho : document.outcome with
  | ok written =>
    simp only [ho] at hc
    rw [Content.text.inj hc]
  | error cause =>
    simp only [ho, Response.detail_eq] at hs
    split at hs <;> cases hs

/-- A parameter that is not empty is repeated twice, escaped and as it came in. -/
theorem param?_toList (name value : Text) :
    (Element.param? false name (some value)).toList =
      if value = "" then []
      else ["<PARAM name=\"" ++ name ++ "\" value=\"" ++ Text.Escape.attr value
        ++ "\" original_value=\"" ++ value ++ "\"/>\n"] := by
  by_cases h : value = ""
  · simp [Element.param?, Element.filled?, h]
  · simp [Element.param?, Element.filled?, h]

variable {index : Index} {params : List (String × String)} {start rows : Nat} {raw : String}

/-- What a search is sorted by is the clause of its sort expression. -/
theorem asked_sort (hs : param? params "sort" = some raw) :
    (asked params start rows).sort =
      (SortExpression.parse raw).clause? Field.lastModified.name := by
  rw [asked, hs]
  exact SortExpression.requestedClause?_some raw

/-- The clause of a search by date is taken apart into the field and the direction again. -/
theorem parse_dateClause (direction : Text) :
    SortClause.parse
      (Field.lastModified.name ++ (if direction = "D" then " desc" else " asc" : Text)) =
      ⟨Field.lastModified.name, direction = "D"⟩ := by
  by_cases h : direction = "D"
  · simp only [h]
    decide
  · simp only [h]
    decide

theorem ranking_byDate {ranked : List Match} {parts : SortParts}
    (hs : param? params "sort" = some raw) (hp : (SortExpression.parse raw).parts = some parts)
    (ha : parts.action = "date")
    (h : index.ranking (asked params start rows).query (asked params start rows).sort =
      .ok ranked) :
    Match.IsArrangement (fun m => m.fields.number Field.lastModified.name)
      (index.answers (Query.terms (asked params start rows).query))
      (if parts.direction = "D" then ranked.reverse else ranked) := by
  let clause : Text :=
    Field.lastModified.name ++ (if parts.direction = "D" then " desc" else " asc" : Text)
  have hclause : (asked params start rows).sort = some clause := by
    rw [asked_sort hs, SortExpression.clause?, hp, Option.bind_some, if_pos ha]
  have hne : clause ≠ "" := requestedClause?_ne_empty hclause
  have hparse : SortClause.parse clause = ⟨Field.lastModified.name, parts.direction = "D"⟩ :=
    parse_dateClause parts.direction
  rw [Index.ranking, Index.matching_eq_answers, hclause] at h
  have harr := Match.arrangement_byField (index.answers_positions _) hne h
  rw [hparse] at harr
  simpa using harr.isArrangement

theorem ranking_byRelevance {ranked : List Match}
    (hs : param? params "sort" = some raw)
    (hp : ∀ parts, (SortExpression.parse raw).parts = some parts → parts.action ≠ "date")
    (h : index.ranking (asked params start rows).query (asked params start rows).sort =
      .ok ranked) :
    Match.IsArrangement (fun m => -(m.score : Int))
      (index.answers (Query.terms (asked params start rows).query)) ranked := by
  have hclause : (asked params start rows).sort = none := by
    rw [asked_sort hs, SortExpression.clause?, Option.bind_eq_none_iff]
    intro parts hparts
    exact if_neg (hp parts hparts)
  rw [Index.ranking, Index.matching_eq_answers, hclause] at h
  exact (Match.arrangement_byRelevance (index.answers_positions _) (Or.inl rfl) h).isArrangement

/-- A sort expression arranges the hits by date, or the best first, and is repeated on the page. -/
theorem searchPage_sort_expression (index : Index) (identity : Text) (clock : Clock)
    (params : List (String × String)) (caller : Option String) (start rows : Nat) (raw : String)
    (hw : windowParams params = .ok (start, rows)) (hs : param? params "sort" = some raw) :
    let sort := SortExpression.parse raw
    let request := asked params start rows
    let found := index.answers (Query.terms request.query)
    let response := searchPage (.own index) identity clock params caller
    (∀ text : Text, (SortExpression.parse text).raw = text ∧
      ((SortExpression.parse text).parts.isSome = true ↔ text.toList.count (.char ':') = 3) ∧
      ∀ parts, (SortExpression.parse text).parts = some parts → parts.joined = text) ∧
      (∀ result, index.search request = .ok result →
        response = answer ((param? params "q").getD "")
          (written identity clock params caller result) ∧
        ∃ ranked, index.ranking request.query request.sort = .ok ranked ∧
          request.resultOf ranked = result ∧
          (∀ parts, sort.parts = some parts → parts.action = "date" →
            Match.IsArrangement (fun m => m.fields.number Field.lastModified.name) found
              (if parts.direction = "D" then ranked.reverse else ranked)) ∧
          ((∀ parts, sort.parts = some parts → parts.action ≠ "date") →
            Match.IsArrangement (fun m => -(m.score : Int)) found ranked)) ∧
      (∀ content : String, response.status = 200 → response.content = .text content →
        ∃ (time : Int) (rest : List Text), (content : Text) = Text.join (
          [(Page.prolog : Text)]
            ++ (Element.line? "TM" (some (toString time : String))).toList
            ++ (Element.line? "Q" (some request.query)).toList
            ++ (if raw = "" then []
              else ["<PARAM name=\"sort\" value=\"" ++ Text.Escape.attr raw
                ++ "\" original_value=\"" ++ raw ++ "\"/>\n"])
            ++ ["<PARAM name=\"output\" value=\"" ++ (Page.outputMode : Text)
              ++ "\" original_value=\"" ++ Page.outputMode ++ "\"/>\n"]
            ++ rest)) ∧
      Text.Escape.unescape (Text.Escape.attr raw).toList = (raw : Text).toList := by
  intro sort request found response
  refine ⟨fun text => ⟨SortExpression.parse_raw text, SortExpression.parse_parts_isSome text,
    fun parts hparts => SortExpression.joined_of_parse hparts⟩, ?_, ?_, ?_⟩
  · intro result hresult
    have hresponse : response = answer ((param? params "q").getD "")
        (written identity clock params caller result) := by
      rw [show response = _ from searchPage_eq hw, hresult]
    obtain ⟨ranked, hrank, hpage⟩ := Index.search_eq_ok.mp hresult
    exact ⟨hresponse, ranked, hrank, hpage,
      fun parts hparts haction => ranking_byDate hs hparts haction hrank,
      fun hparts => ranking_byRelevance hs hparts hrank⟩
  · intro content hstatus hcontent
    rw [show response = _ from searchPage_eq hw] at hstatus hcontent
    cases hresult : index.search (asked params start rows) with
    | error cause =>
      rw [hresult] at hstatus
      cases hstatus
    | ok result =>
      rw [hresult] at hstatus hcontent
      have hdocument := Page.document_of_assemble (outcome_of_answer hstatus hcontent)
      rw [Page.document_outcome] at hdocument
      obtain ⟨ts, hts, hcontents⟩ := Outcome.map_eq_ok.mp hdocument
      obtain ⟨time, rest, rfl⟩ := Page.texts_sort hts
      have hquery : (echoed params caller).query = some request.query := rfl
      have hsort : (echoed params caller).sort = some (raw : Text) :=
        congrArg (Option.map Text.ofString) hs
      refine ⟨time, rest, hcontents.symm.trans ?_⟩
      rw [hquery, hsort, param?_toList]
      simp only [Text.ofString_inj]
      rfl
  · rw [Text.Escape.attr, Text.toList_ofList, Text.Escape.unescape_attrValue]

/-- Downwards, of the two teas with the same date the later one comes first. -/
theorem search_teas_by_date :
    let params := [("q", "tea"), ("sort", "date:D:S:d1")]
    let index := Index.ofDocuments Index.teas
    windowParams params = .ok (0, 10) ∧ param? params "sort" = some "date:D:S:d1" ∧
      (∃ result, index.search (asked params 0 10) = .ok result) ∧
      ∃ ranked, index.ranking "tea" (some "last_modified desc") = .ok ranked ∧
        ranked.map (·.id) = (["c", "b", "a"] : List Text) := by
  intro params index
  have hw : windowParams params = .ok (0, 10) := rfl
  have hs : param? params "sort" = some "date:D:S:d1" := rfl
  have hok : (index.search (asked params 0 10)).isOk = true := by
    rw [Index.search_isOk]
    decide
  obtain ⟨result, h⟩ := Outcome.isOk_iff.mp hok
  obtain ⟨-, hall, -, -⟩ :=
    searchPage_sort_expression index "node" (Clock.ofList []) params none 0 10 _ hw hs
  obtain ⟨-, ranked, hrank, -, hdate, -⟩ := hall result h
  refine ⟨hw, hs, ⟨result, h⟩, ranked, hrank, ?_⟩
  let found := index.answers (Query.terms "tea")
  have hup : Match.Ascending (fun m => m.fields.number "last_modified") found found :=
    ⟨List.Perm.refl _, by decide⟩
  have hr := (hdate ⟨"date", "D", "S", "d1"⟩ rfl rfl _).mp hup
  rw [if_pos rfl] at hr
  rw [← ranked.reverse_reverse, ← hr]
  decide

end Service

end SearchAppliance
