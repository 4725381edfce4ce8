import SearchAppliance.Proofs.Page.Stopping

namespace SearchAppliance

open Settings (PageOptions)

/-- A digest asks for no fragments but those under its identifier. -/
theorem Digest.snippet_congr {d : Digest} {snippets table : Snippets}
    (h : ∀ id, d.documentId = some id → Pairs.get? id snippets = Pairs.get? id table) :
    d.snippet snippets = d.snippet table := by
  unfold snippet
  cases hid : d.documentId with
  | none => rfl
  | some id => rw [Option.bind_some, Option.bind_some, h id hid]

/-- Do the tables have the same fragments for the hit, if its digest has an identifier? -/
def Fields.AgreesOn (options : PageOptions) (hit : Fields) (snippets table : Snippets) : Prop :=
  ∀ d id, (Digest.ofFields options hit).outcome = .ok d → d.documentId = some id →
    Pairs.get? id snippets = Pairs.get? id table

variable {options : PageOptions} {snippets table : Snippets} {identity : Text} {hit : Fields}

theorem Fields.elements_congr (h : hit.AgreesOn options snippets table) :
    hit.elements options snippets identity = hit.elements options table identity := by
  unfold elements Logged.map
  cases ho : (Digest.ofFields options hit).outcome with
  | error cause => rfl
  | ok d =>
    have hsnippet : d.snippet snippets = d.snippet table := Digest.snippet_congr (h d · ho)
    simp only [Except.map, Digest.elements, hsnippet]

namespace Page

/-- Is it one result: a start tag, and no further tag of a result before the end tag? -/
def IsResult (texts : List Text) : Prop :=
  ∃ opening content, texts = opening :: content ++ [Element.closing "R"] ∧
    (rank? opening).isSome = true ∧
    ∀ text ∈ content, rank? text = none ∧ text ≠ Element.closing "R"

/-- A document cut at its results. There are no tags of results outside of these. -/
structure Cut (texts header : List Text) (results : List (List Text))
    (ending : List Text) : Prop where
  whole : texts = header ++ results.flatten ++ ending
  header : ∀ text ∈ header, rank? text = none
  results : ∀ result ∈ results, IsResult result
  ending : ∀ text ∈ ending, rank? text = none ∧ text ≠ Element.closing "R"

/-- Are the pages cut at the same place of as many documents, with as many hits? -/
structure SameWindow (page other : Page) : Prop where
  offset : other.offset = page.offset
  rows : other.rows = page.rows
  found : other.found = page.found
  hits : other.hits.length = page.hits.length

variable {request : EchoedRequest} {page : Page} {offset : Int}

theorem SameWindow.headerTexts {other : Page} (h : page.SameWindow other) (elapsed : Float) :
    other.headerTexts options request elapsed = page.headerTexts options request elapsed := by
  have hother : other = { page with hits := other.hits } := by
    rw [← h.offset, ← h.rows, ← h.found]
  rw [hother]
  exact headerTexts_hits h.hits elapsed

/-- The tag that an element begins with is no end tag. -/
theorem written_begins {d : Digest} {element : Element} {text : Text}
    (he : element ∈ d.elements snippets identity) (h : element.written? = some text) :
    ∃ c : Char, c ≠ '/' ∧ [CodePoint.char '<', c] <+: text.toList := by
  rcases Digest.mem_elements he with ⟨tag, value, rfl⟩ | rfl
  · obtain ⟨v, -, rfl⟩ := Option.map_eq_some_iff.mp h
    have hname : ∃ c rest, tag.name.toList = c :: rest ∧ c ≠ '/' := by
      cases tag <;> exact ⟨_, _, rfl, by decide⟩
    obtain ⟨c, rest, hc, hne⟩ := hname
    exact ⟨c, hne, by simp [hc]⟩
  · cases h
    refine ⟨'H', by decide, ?_⟩
    unfold Digest.features
    simp

theorem written_ne_closing {d : Digest} {element : Element} {text : Text}
    (he : element ∈ d.elements snippets identity) (h : element.written? = some text) :
    text ≠ Element.closing "R" := by
  obtain ⟨c, hc, hbegins⟩ := written_begins he h
  rintro rfl
  exact hc (by simpa [Element.closing] using hbegins)

theorem isResult_blockTexts {index : Nat} {block : List Text}
    (h : blockTexts options snippets identity offset index hit = .ok block) : IsResult block := by
  obtain ⟨opening, ho, h⟩ := Outcome.bind_eq_ok.mp h
  obtain ⟨elements, he, h⟩ := Outcome.bind_eq_ok.mp h
  obtain ⟨d, -, rfl⟩ := Outcome.map_eq_ok.mp he
  refine ⟨opening, _, (Outcome.pure_eq_ok.mp h).symm, ?_, ?_⟩
  · rw [(hitOpening_marks ho).1]
    rfl
  · intro text hm
    obtain ⟨element, helement, hwritten⟩ := List.mem_filterMap.mp hm
    exact ⟨(plain_written helement hwritten).unmarked.rank,
      written_ne_closing helement hwritten⟩

/-- Each hit has its block at its own place. -/
theorem blocks_getElem? {index : Nat} {hits : List Fields} {bs : List (List Text)}
    (h : blocks options snippets identity offset index hits = .ok bs) :
    bs.length = hits.length ∧ ∀ j hit, hits[j]? = some hit → ∃ block, bs[j]? = some block ∧
      blockTexts options snippets identity offset (index + j) hit = .ok block := by
  induction hits generalizing index bs with
  | nil =>
    rw [← Except.ok.inj h]
    exact ⟨rfl, fun j hit hj => by simp at hj⟩
  | cons first rest ih =>
    obtain ⟨block, hb, h⟩ := Outcome.bind_eq_ok.mp h
    obtain ⟨more, hm, h⟩ := Outcome.bind_eq_ok.mp h
    obtain rfl := Outcome.pure_eq_ok.mp h
    obtain ⟨hlength, hall⟩ := ih hm
    refine ⟨by rw [List.length_cons, List.length_cons, hlength], ?_⟩
    intro j hit hj
    cases j with
    | zero =>
      obtain rfl : first = hit := by simpa using hj
      exact ⟨block, rfl, hb⟩
    | succ j =>
      obtain ⟨found, hf, ht⟩ := hall j hit (by simpa using hj)
      refine ⟨found, by simpa using hf, ?_⟩
      rwa [Nat.add_assoc, Nat.add_comm 1 j] at ht

theorem isResult_blocks {index : Nat} {hits : List Fields} {bs : List (List Text)}
    (h : blocks options snippets identity offset index hits = .ok bs) :
    ∀ block ∈ bs, IsResult block := by
  obtain ⟨hlength, hall⟩ := blocks_getElem? h
  intro block hm
  obtain ⟨j, hj, rfl⟩ := List.mem_iff_getElem.mp hm
  have hplace : j < hits.length := hlength ▸ hj
  obtain ⟨block, hb, ht⟩ := hall j hits[j] (List.getElem?_eq_getElem hplace)
  rw [List.getElem?_eq_getElem hj] at hb
  exact Option.some.inj hb ▸ isResult_blockTexts ht

/-- The blocks of a page are its results. -/
theorem cut_of_texts {elapsed : Float} {ts : List Text}
    (h : page.texts options snippets request identity elapsed = .ok ts) :
    ∃ header bs, page.headerTexts options request elapsed = .ok header ∧
      blocks options snippets identity page.offset 0 page.hits = .ok bs ∧
      Cut ts header bs [Element.closing "RES", Element.closing "GSP"] := by
  obtain ⟨header, hh, h⟩ := Outcome.bind_eq_ok.mp h
  obtain ⟨bs, hb, h⟩ := Outcome.bind_eq_ok.mp h
  refine ⟨header, bs, hh, hb, (Outcome.pure_eq_ok.mp h).symm, ?_, isResult_blocks hb, ?_⟩
  · exact List.filterMap_eq_nil_iff.mp (header_marks hh).1
  · intro text hm
    simp only [List.mem_cons, List.not_mem_nil, or_false] at hm
    rcases hm with rfl | rfl
    · exact ⟨(plain_closing "RES" (by decide)).unmarked.rank, by decide⟩
    · exact ⟨(plain_closing "GSP" (by decide)).unmarked.rank, by decide⟩

/-- The result of a hit depends on its place and on its own fragments, not on the other hits. -/
theorem write_independent (options : PageOptions) (snippets table : Snippets)
    (request : EchoedRequest) (identity : Text) (clock : Clock) (page other : Page)
    (s t : Session) (hwindow : page.SameWindow other)
    (hs : page.write options snippets request identity { clock := clock } = (.ok (), s))
    (ht : other.write options table request identity { clock := clock } = (.ok (), t)) :
    ∃ header results others ending,
      Cut s.stream.texts.toList header results ending ∧
      Cut t.stream.texts.toList header others ending ∧
      results.length = page.hits.length ∧ others.length = page.hits.length ∧
      (∀ (j : Nat) (hit : Fields), page.hits[j]? = some hit → other.hits[j]? = some hit →
        hit.AgreesOn options snippets table → results[j]? = others[j]?) ∧
      ∀ (hit : Fields) (d : Digest), (Digest.ofFields options hit).outcome = .ok d →
        d.documentId = none →
        ∀ table : Snippets, d.snippet table = d.description ∧
          hit.elements options table identity = hit.elements options [] identity := by
  obtain ⟨header, results, hh, hb, hcut⟩ := cut_of_texts (texts_of_write hs)
  obtain ⟨header', others, hh', hb', hcut'⟩ := cut_of_texts (texts_of_write ht)
  obtain rfl : header = header' := by
    rw [hwindow.headerTexts, hh] at hh'
    exact Except.ok.inj hh'
  obtain ⟨hlength, hall⟩ := blocks_getElem? hb
  obtain ⟨hlength', hall'⟩ := blocks_getElem? hb'
  refine ⟨header, results, others, _, hcut, hcut', hlength, hlength'.trans hwindow.hits, ?_, ?_⟩
  · intro j hit hj hj' hagree
    obtain ⟨block, hblock, hwritten⟩ := hall j hit hj
    obtain ⟨block', hblock', hwritten'⟩ := hall' j hit hj'
    have hsame : blockTexts options snippets identity page.offset (0 + j) hit =
        blockTexts options table identity other.offset (0 + j) hit := by
      rw [blockTexts, blockTexts, Fields.elements_congr hagree, hwindow.offset]
    rw [hblock, hblock', Except.ok.inj (hwritten.symm.trans (hsame.trans hwritten'))]
  · intro hit d hd hid table
    refine ⟨?_, Fields.elements_congr ?_⟩
    · rw [Digest.snippet, hid]
      rfl
    · intro found id hfound hsome
      rw [hd] at hfound
      rw [← Except.ok.inj hfound, hid] at hsome
      cases hsome

/-- Two pages with the same second hit. The first hits are different, and only one of the tables has
fragments for one of them. -/
theorem write_independent_second :
    let tea : Fields := [("id", ["b"]), ("title", ["Green tea"])]
    let page : Page := { offset := 10, rows := 2, found := 12, hits := [[("id", ["a"])], tea] }
    let other : Page := { page with hits := [[("size_i", ["4096"])], tea] }
    let snippets : Snippets := [("a", ["Black <b>tea</b>"]), ("b", ["Green <b>tea</b>"])]
    let table : Snippets := [("b", ["Green <b>tea</b>"])]
    let session : Session := { clock := Clock.ofList [0.0] }
    page.SameWindow other ∧ tea.AgreesOn {} snippets table ∧
      ∃ s t, page.write {} snippets {} "node" session = (.ok (), s) ∧
        other.write {} table {} "node" session = (.ok (), t) ∧
        ∃ header results others ending,
          Cut s.stream.texts.toList header results ending ∧
          Cut t.stream.texts.toList header others ending ∧
          results.length = 2 ∧ others.length = 2 ∧ results[1]? = others[1]? := by
  intro tea page other snippets table session
  have hwindow : page.SameWindow other := ⟨rfl, rfl, rfl, rfl⟩
  have hagree : tea.AgreesOn {} snippets table := by
    intro d id hd hid
    have hdigest : (Digest.ofFields {} tea).outcome = .ok _ := rfl
    rw [hdigest] at hd
    obtain rfl := Except.ok.inj hd
    obtain rfl : "b" = id := Option.some.inj hid
    rfl
  have hendless : session.Endless := rfl
  have hfirst : (page.texts {} snippets {} "node" (session.clock.span 1)).isOk = true := by
    decide +kernel
  have hsecond : (other.texts {} table {} "node" (session.clock.span 1)).isOk = true := by
    decide +kernel
  obtain ⟨ts, hts⟩ := Outcome.isOk_iff.mp hfirst
  obtain ⟨us, hus⟩ := Outcome.isOk_iff.mp hsecond
  have hs := write_ok hendless hts
  have ht := write_ok hendless hus
  obtain ⟨header, results, others, ending, hcut, hcut', hlength, hlength', hsame, -⟩ :=
    write_independent {} snippets table {} "node" (Clock.ofList [0.0]) page other _ _ hwindow hs ht
  exact ⟨hwindow, hagree, _, _, hs, ht, header, results, others, ending, hcut, hcut', hlength,
    hlength', hsame 1 tea rfl rfl hagree⟩

end Page

end SearchAppliance
