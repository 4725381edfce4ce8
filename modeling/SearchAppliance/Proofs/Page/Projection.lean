import SearchAppliance.Index.Search
import SearchAppliance.Page.Document
import SearchAppliance.Proofs.Result.Digest

namespace SearchAppliance

open Settings (PageOptions)

theorem Field.name_mem_requested (field : Field) : (field.name : Text) ∈ requested := by
  cases field <;> decide

theorem Field.ofName?_of_not_requested {name : Text} (h : name ∉ requested) :
    ofName? name = none := by
  rw [ofName?, List.find?_eq_none]
  intro field _ hname
  exact h (of_decide_eq_true hname ▸ field.name_mem_requested)

theorem Fields.entries_restrict (names : List Text) (fields : Fields) :
    (fields.restrict (some names)).entries =
      fields.entries.filter fun entry => names.contains entry.1 := by
  induction fields with
  | nil => rfl
  | cons first rest ih =>
    obtain ⟨name, values⟩ := first
    have hsplit (fields : Fields) :
        entries ((name, values) :: fields) = values.map (name, ·) ++ entries fields := rfl
    rw [hsplit, List.filter_append, ← ih]
    by_cases hn : name ∈ names
    · have hall : (values.map (name, ·)).filter (fun entry => names.contains entry.1) =
          values.map (name, ·) := List.filter_eq_self.mpr (by simp [hn])
      rw [hall]
      simp [restrict, hn, hsplit]
    · simp [restrict, hn]

namespace Digest

variable {options : PageOptions}

/-- Values of other fields leave no trace, neither in the digest nor in what is reported. -/
theorem takeAll_requested (d : Digest) (entries : List (Text × Text)) :
    takeAll options d (entries.filter fun entry => Field.requested.contains entry.1) =
      takeAll options d entries := by
  induction entries generalizing d with
  | nil => rfl
  | cons entry rest ih =>
    by_cases h : entry.1 ∈ Field.requested
    · rw [List.filter_cons_of_pos (by simpa using h), takeAll, takeAll]
      cases d.take options entry with
      | ok next => exact ih next
      | error cause => simp only [ih]
    · rw [List.filter_cons_of_neg (by simpa using h), takeAll,
        take_unknown (Field.ofName?_of_not_requested h)]
      exact ih d

theorem ofFields_requested (options : PageOptions) (fields : Fields) :
    ofFields options (fields.restrict (some Field.requested)) = ofFields options fields := by
  rw [ofFields, Fields.entries_restrict, takeAll_requested]
  rfl

end Digest

/-- The page with something else in place of each hit. -/
def Page.mapHits (f : Fields → Fields) (page : Page) : Page :=
  { page with hits := page.hits.map f }

/-- The same result, of whose hits only some fields were loaded. -/
def SearchResult.restrict (names : List Text) (result : SearchResult) : SearchResult :=
  { result with page := result.page.mapHits (Fields.restrict (some names)) }

/-- The document of a search result, with the snippets from what was marked in it. -/
def SearchResult.assemble (options : PageOptions) (request : EchoedRequest) (identity : Text)
    (clock : Clock) (result : SearchResult) : Logged String :=
  result.page.assemble options (Snippets.ofHighlighting result.highlighting) request identity clock

namespace Page

variable {options : PageOptions} {snippets : Snippets} {request : EchoedRequest}
  {identity : Text} {f : Fields → Fields}

theorem writeHits_map (hf : ∀ hit : Fields, (f hit).elements options snippets identity =
      hit.elements options snippets identity) (offset : Int) (index : Nat) (hits : List Fields) :
    writeHits options snippets identity offset index (hits.map f) =
      writeHits options snippets identity offset index hits := by
  induction hits generalizing index with
  | nil => rfl
  | cons hit rest ih =>
    rw [List.map_cons, writeHits, writeHits, ih, writeHit, writeHit, hf]

/-- The header sees of the hits only how many there are. -/
theorem writeHeader_mapHits (page : Page) (watch : Stopwatch) :
    writeHeader options request (page.mapHits f) watch =
      writeHeader options request page watch := by
  simp only [writeHeader, mapHits, params, opening, foundLine, linkLine, nextLink, nextStart,
    List.length_map]

/-- A page is written from the elements of its hits and not from the hits themselves. -/
theorem document_mapHits (hf : ∀ hit : Fields, (f hit).elements options snippets identity =
      hit.elements options snippets identity) (clock : Clock) (page : Page) :
    (page.mapHits f).document options snippets request identity clock =
      page.document options snippets request identity clock := by
  have hbody (watch : Stopwatch) :
      writeBody options snippets request identity (page.mapHits f) watch =
        writeBody options snippets request identity page watch := by
    rw [writeBody, writeBody, writeHeader_mapHits]
    congr 1
    funext _
    exact congrArg (· >>= _) (writeHits_map hf page.offset 0 page.hits)
  have hcount : (page.mapHits f).hits.length = page.hits.length := List.length_map f
  rw [document, document, write, write]
  simp only [hbody, hcount]
  rfl

end Page

theorem SearchResult.assemble_requested (options : PageOptions) (request : EchoedRequest)
    (identity : Text) (clock : Clock) (result : SearchResult) :
    (result.restrict Field.requested).assemble options request identity clock =
      result.assemble options request identity clock := by
  have helements (hit : Fields) :
      (hit.restrict (some Field.requested)).elements options
          (Snippets.ofHighlighting result.highlighting) identity =
        hit.elements options (Snippets.ofHighlighting result.highlighting) identity := by
    rw [Fields.elements, Digest.ofFields_requested]
    rfl
  have hdocument := @Page.document_mapHits _ _ request _ _ helements clock result.page
  simp only [assemble, Page.assemble, restrict, hdocument]

namespace Index

/-- What is loaded of the documents makes no difference to which of them are found, shown and
marked. -/
theorem search_restrict (index : Index) (request : Search) (names : List Text) :
    index.search { request with fields := some names } =
      (index.search { request with fields := none }).map (·.restrict names) := by
  unfold search
  cases index.ranking request.query request.sort with
  | error cause => rfl
  | ok ranked =>
    have hhits (shown : List Match) :
        shown.map (fun m => m.fields.restrict (some names)) =
          (shown.map fun m => m.fields.restrict none).map (Fields.restrict (some names)) := by
      simp [Fields.restrict]
    simp only [bind, Except.bind, pure, Except.pure, Except.map, SearchResult.restrict,
      Page.mapHits, hhits]

/-- A search that loads just the fields that results are made of gives the same document and the same
reports as one that loads all. -/
theorem search_projection (options : PageOptions) (request : EchoedRequest) (identity : Text)
    (clock : Clock) (index : Index) (asked : Search) :
    let whole := index.search { asked with fields := none }
    let written := SearchResult.assemble options request identity clock
    (index.search { asked with fields := some Field.requested }).map written = whole.map written ∧
      (∀ names, index.search { asked with fields := some names } =
        whole.map (·.restrict names)) ∧
      ∀ hit : Fields, Digest.ofFields options (hit.restrict (some Field.requested)) =
        Digest.ofFields options hit := by
  intro whole written
  refine ⟨?_, index.search_restrict asked, Digest.ofFields_requested options⟩
  have hrestrict : index.search { asked with fields := some Field.requested } =
      whole.map (·.restrict Field.requested) := index.search_restrict asked _
  rw [hrestrict]
  cases whole with
  | error cause => rfl
  | ok result => exact congrArg Except.ok (result.assemble_requested options request identity clock)

end Index

end SearchAppliance
