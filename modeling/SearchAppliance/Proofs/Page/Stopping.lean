import Mathlib.Data.List.Basic
import SearchAppliance.Proofs.Page.Limits
import SearchAppliance.Proofs.Page.Truncation

namespace SearchAppliance

open Settings (PageOptions)

namespace Page

variable {options : PageOptions} {snippets : Snippets} {request : EchoedRequest}
  {identity : Text} {page : Page} {s : Session}

/-- The elements of a hit are known before any of them is written: if they cannot be given, only its
start tag is. -/
theorem writeHit_stop (hs : s.Endless) {offset : Int} {index : Nat} {hit : Fields}
    {opening : Text} {cause : Failure} (ho : hitOpening options offset index = .ok opening)
    (he : (hit.elements options snippets identity).outcome = .error cause) :
    writeHit options snippets identity offset index hit s =
      (.error cause, s.add [opening] (hit.elements options snippets identity).events) := by
  simp [writeHit, hs, ho, he]

theorem writeHits_stop (hs : s.Endless) {offset : Int} {index : Nat} {front rest : List Fields}
    {hit : Fields} {finished : List (List Text)} {opening : Text} {cause : Failure}
    (hf : blocks options snippets identity offset index front = .ok finished)
    (ho : hitOpening options offset (index + front.length) = .ok opening)
    (he : (hit.elements options snippets identity).outcome = .error cause) :
    writeHits options snippets identity offset index (front ++ hit :: rest) s =
      (.error cause, s.add (finished.flatten ++ [opening])
        ((front ++ [hit]).flatMap fun hit =>
          (hit.elements options snippets identity).events)) := by
  induction front generalizing index s finished with
  | nil =>
    have hfirst : hitOpening options offset index = .ok opening := ho
    rw [← Except.ok.inj hf]
    simp [writeHits, writeHit_stop hs hfirst he]
  | cons first front ih =>
    obtain ⟨block, hb, hf⟩ := Outcome.bind_eq_ok.mp hf
    obtain ⟨more, hm, hf⟩ := Outcome.bind_eq_ok.mp hf
    have hplace : index + (first :: front).length = index + 1 + front.length := by
      rw [List.length_cons]
      omega
    rw [hplace] at ho
    have hnext : (s.add block (first.elements options snippets identity).events).Endless := hs
    rw [← Outcome.pure_eq_ok.mp hf]
    simp [writeHits, writeHit_ok hs hb, ih hnext hm ho]

/-- Header, finished blocks and one start tag are what is left of a page that ends at a hit. -/
theorem write_stop (hs : s.Endless) {header : List Text} {front rest : List Fields}
    {hit : Fields} {finished : List (List Text)} {opening : Text} {cause : Failure}
    (hh : page.headerTexts options request (s.clock.span 1) = .ok header)
    (hp : page.hits = front ++ hit :: rest)
    (hf : blocks options snippets identity page.offset 0 front = .ok finished)
    (ho : hitOpening options page.offset front.length = .ok opening)
    (he : (hit.elements options snippets identity).outcome = .error cause) :
    page.write options snippets request identity s =
      (.error cause, (s.withClock { s.clock with taken := s.clock.taken + 3 }).add
        (header ++ finished.flatten ++ [opening])
        ((front ++ [hit]).flatMap fun hit =>
          (hit.elements options snippets identity).events)) := by
  let started := Stopwatch.start s.clock
  have hstart : (s.withClock started.2).Endless := hs
  let t := ((s.withClock started.2).withClock (started.1.elapsed started.2).2).add header []
  have hheader : writeHeader options request page started.1 (s.withClock started.2) = (.ok (), t) :=
    writeHeader_ok hstart started.1 hh
  have ht : t.Endless := hs
  have hplace : hitOpening options page.offset (0 + front.length) = .ok opening := by
    rw [Nat.zero_add]
    exact ho
  let u := t.add (finished.flatten ++ [opening]) ((front ++ [hit]).flatMap fun hit =>
    (hit.elements options snippets identity).events)
  have hhits : writeHits options snippets identity page.offset 0 page.hits t =
      (.error cause, u) := by
    rw [hp]
    exact writeHits_stop ht hf hplace he
  have hbody : writeBody options snippets request identity page started.1
      (s.withClock started.2) = (.error cause, u) := by
    unfold writeBody
    rw [Writing.bind_of_ok hheader]
    exact Writing.bind_of_error hhits
  rw [write_of_body_error s hbody]
  simp [u, t, started, Stopwatch.start, Stopwatch.elapsed, Clock.read, Nat.add_assoc]

theorem blocks_append {offset : Int} {index : Nat} {front back : List Fields}
    {all : List (List Text)}
    (h : blocks options snippets identity offset index (front ++ back) = .ok all) :
    ∃ first second, all = first ++ second ∧
      blocks options snippets identity offset index front = .ok first ∧
      blocks options snippets identity offset (index + front.length) back = .ok second := by
  induction front generalizing index all with
  | nil => exact ⟨[], all, rfl, rfl, h⟩
  | cons hit front ih =>
    obtain ⟨block, hb, h⟩ := Outcome.bind_eq_ok.mp h
    obtain ⟨more, hm, h⟩ := Outcome.bind_eq_ok.mp h
    obtain ⟨first, second, rfl, hfirst, hsecond⟩ := ih hm
    have hplace : index + (hit :: front).length = index + 1 + front.length := by
      rw [List.length_cons]
      omega
    refine ⟨block :: first, second, (Outcome.pure_eq_ok.mp h).symm, ?_, ?_⟩
    · rw [blocks, hb, hfirst]
      rfl
    · rw [hplace]
      exact hsecond

/-- The blocks of hits begin with the blocks of the first ones. -/
theorem blocks_prefix {offset : Int} {index : Nat} {front others : List Fields}
    {finished all : List (List Text)}
    (hf : blocks options snippets identity offset index front = .ok finished)
    (h : blocks options snippets identity offset index (front ++ others) = .ok all) :
    finished <+: all := by
  obtain ⟨first, second, rfl, hfirst, -⟩ := blocks_append h
  rw [hf] at hfirst
  rw [Except.ok.inj hfirst]
  exact List.prefix_append first second

theorem hits_warnings (hits : List Fields) :
    ∀ event ∈ hits.flatMap fun hit => (hit.elements options snippets identity).events,
      event.IsWarning := by
  intro event hm
  obtain ⟨hit, -, hm⟩ := List.mem_flatMap.mp hm
  exact Digest.takeAll_warnings {} hit.entries event hm

/-- No warning is the report of a page. -/
theorem unreported_of_warnings {events : List Event} (h : ∀ event ∈ events, event.IsWarning) :
    events.filter (·.level = "DEBUG") = [] := by
  rw [List.filter_eq_nil_iff]
  intro event hm
  have hlevel : event.level = "WARNING" := h event hm
  simp [hlevel]

/-- All that is written of the hits before a hit, and its start tag, can be given. -/
theorem parts_before (hw : page.Writable) {front rest : List Fields} {hit : Fields}
    (hp : page.hits = front ++ hit :: rest)
    (hb : ∀ before ∈ front, (before.elements options snippets identity).outcome.isOk = true) :
    ∃ finished opening, blocks options snippets identity page.offset 0 front = .ok finished ∧
      hitOpening options page.offset front.length = .ok opening := by
  have hranks : RanksFit page.offset 0 (front ++ hit :: rest) := hp ▸ hw.ranksFit
  have hfront : RanksFit page.offset 0 front := by
    intro i hi
    exact hranks i (by rw [List.length_append]; omega)
  have hrank := hranks front.length (by simp)
  rw [Nat.zero_add] at hrank
  obtain ⟨finished, hf⟩ := blocks_of_elements hfront hb
  obtain ⟨opening, ho⟩ := hitOpening_ok options hrank
  exact ⟨finished, opening, hf, ho⟩

/-- Of the hits the header knows only how many there are. -/
theorem headerTexts_hits {hits : List Fields} (h : hits.length = page.hits.length)
    (elapsed : Float) :
    ({ page with hits := hits } : Page).headerTexts options request elapsed =
      page.headerTexts options request elapsed := by
  simp only [headerTexts, params, opening, foundLine, linkLine, nextLink, nextStart, h]

/-- A page that fails is not reported, whatever it fails for. -/
theorem write_unreported {clock : Clock} {t : Session} {cause : Failure}
    (h : page.write options snippets request identity { clock := clock } = (.error cause, t)) :
    t.events.toList.filter (·.level = "DEBUG") = [] := by
  let s : Session := { clock := clock }
  let started := Stopwatch.start s.clock
  have hbody : Writing.Truncatable
      (writeBody options snippets request identity page started.1) :=
    truncatable_writeBody started.1
  obtain ⟨outcome, last, texts, events, hwarn, hb⟩ := hbody (s.withClock started.2) rfl
  cases outcome with
  | ok done =>
    rw [write_of_body_ok s hb.whole] at h
    cases h
  | error other =>
    obtain ⟨-, rfl⟩ := Prod.mk.inj ((write_of_body_error s hb.whole).symm.trans h)
    apply unreported_of_warnings
    intro event hm
    exact hwarn event (by simpa [s, started] using hm)

/-- A page whose header cannot be given fails like it and is not reported. -/
theorem write_headerless {clock : Clock} {cause : Failure}
    (h : page.headerTexts options request (clock.span 1) = .error cause) :
    ∃ t, page.write options snippets request identity { clock := clock } = (.error cause, t) ∧
      t.events.toList.filter (·.level = "DEBUG") = [] := by
  have hs : Session.Endless { clock := clock } := rfl
  have htexts : page.texts options snippets request identity (clock.span 1) = .error cause :=
    Outcome.bind_eq_error.mpr (Or.inl h)
  have hrun := write_error hs htexts
  rcases hw : page.write options snippets request identity { clock := clock } with ⟨outcome, t⟩
  rw [hw] at hrun
  obtain rfl : outcome = .error cause := hrun
  exact ⟨t, rfl, write_unreported hw⟩

/-- A page whose numbers can be written ends with the start tag of the first hit whose elements cannot
be given, or it is complete and reported once. Other pages end before their header. -/
theorem write_first_failure (options : PageOptions) (snippets : Snippets)
    (request : EchoedRequest) (identity : Text) (clock : Clock) (page : Page) :
    let elements (hit : Fields) := (hit.elements options snippets identity).outcome
    let run := page.write options snippets request identity { clock := clock }
    let writable := page.Writable ∧ ∃ time, Number.wholePart (clock.span 1) = .ok time
    (writable → ∃ header : List Text,
      page.headerTexts options request (clock.span 1) = .ok header ∧
      header.filterMap bounds? = [(page.offset + 1, page.offset + page.hits.length)] ∧
      (∀ front hit rest cause, page.hits = front ++ hit :: rest →
        (∀ before ∈ front, (elements before).isOk = true) → elements hit = .error cause →
        ∃ finished opening,
          blocks options snippets identity page.offset 0 front = .ok finished ∧
          hitOpening options page.offset front.length = .ok opening ∧
          run.1 = .error cause ∧
          run.2.stream.content = Text.join (header ++ finished.flatten ++ [opening]) ∧
          (∀ event ∈ run.2.events.toList, event.IsWarning) ∧
          (∀ others all, blocks options snippets identity page.offset 0 (front ++ others) = .ok all →
            finished <+: all) ∧
          ∀ others : List Fields, others.length = rest.length →
            ({ page with hits := front ++ hit :: others } : Page).write options snippets request
              identity { clock := clock } = run) ∧
      ((∀ hit ∈ page.hits, (elements hit).isOk = true) → ∃ all,
        blocks options snippets identity page.offset 0 page.hits = .ok all ∧
        run.1 = .ok () ∧
        run.2.stream.content =
          Text.join (header ++ all.flatten ++ [Element.closing "RES", Element.closing "GSP"]) ∧
        run.2.events.toList.filter (·.level = "DEBUG") = [page.writtenEvent request clock])) ∧
    (¬writable → ∃ cause,
      page.headerTexts options request (clock.span 1) = .error cause ∧
      run.1 = .error cause ∧
      run.2.events.toList.filter (·.level = "DEBUG") = []) := by
  intro elements run writable
  let s : Session := { clock := clock }
  have hs : s.Endless := rfl
  refine ⟨?_, ?_⟩
  · rintro ⟨hw, time, ht⟩
    obtain ⟨header, hh⟩ : ∃ header, page.headerTexts options request (clock.span 1) = .ok header :=
      headerTexts_ok hw ht
    refine ⟨header, hh, (header_marks hh).2, ?_, ?_⟩
    · intro front hit rest cause hp hbefore he
      obtain ⟨finished, opening, hf, ho⟩ := parts_before hw hp hbefore
      have hrun : run = _ := write_stop hs hh hp hf ho he
      refine ⟨finished, opening, hf, ho, ?_, ?_, ?_, ?_, ?_⟩
      · rw [hrun]
      · rw [hrun]
        simp [s]
      · rw [hrun]
        simpa [s] using hits_warnings (front ++ [hit])
      · intro others all hall
        exact blocks_prefix hf hall
      · intro others hl
        have hcount : (front ++ hit :: others).length = page.hits.length := by
          rw [hp]
          simp [hl]
        have hsame : ({ page with hits := front ++ hit :: others } : Page).headerTexts options
            request (clock.span 1) = .ok header := (headerTexts_hits hcount _).trans hh
        rw [hrun]
        exact write_stop hs hsame rfl hf ho he
    · intro hall
      obtain ⟨all, hb⟩ := blocks_of_elements hw.ranksFit hall
      have htexts : page.texts options snippets request identity (clock.span 1) =
          .ok (header ++ all.flatten ++ [Element.closing "RES", Element.closing "GSP"]) := by
        rw [texts, hh, hb]
        rfl
      have hrun : run = _ := write_ok hs htexts
      have hown : (page.writtenEvent request clock).level = "DEBUG" := rfl
      refine ⟨all, hb, ?_, ?_, ?_⟩
      · rw [hrun]
      · rw [hrun]
        simp [s]
      · rw [hrun]
        simp only [s, Session.events_of_new, List.filter_append,
          unreported_of_warnings (hits_warnings page.hits)]
        simp [hown]
  · intro hno
    cases hh : page.headerTexts options request (clock.span 1) with
    | ok header => exact absurd (writable_of_headerTexts hh) hno
    | error cause =>
      obtain ⟨t, hrun, hevents⟩ := write_headerless hh
      exact ⟨cause, rfl, congrArg Prod.fst hrun, (congrArg (·.2.events) hrun) ▸ hevents⟩

/-- The middle one of three hits has a size that is no number, after an identifier and a title. -/
theorem write_second_of_three :
    let first : Fields := [("id", ["a"]), ("title", ["Assam"])]
    let second : Fields := [("id", ["b"]), ("title", ["Ceylon"]), ("size_i", ["n/a"])]
    let page : Page := { offset := 0, rows := 10, found := 3, hits := [first, second, first] }
    let clock := Clock.ofList [0.0]
    let run := page.write {} [] {} "node" { clock := clock }
    page.Writable ∧ (∃ time, Number.wholePart (clock.span 1) = .ok time) ∧
      ∃ header : List Text,
        run.1 = .error (.malformedField "size_i" "n/a") ∧
        run.2.stream.content = Text.join (header ++ ([
          "<R N=\"1\">\n", "<T>Assam</T>\n",
          "<HAS><L/><C SZ=\"0k\" CID=\"a\" ENC=\"UTF-8\"/></HAS>",
          "<ENT_SOURCE>node</ENT_SOURCE>\n", "</R>\n",
          "<R N=\"2\" L=\"2\">\n"] : List Text)) ∧
        header.filterMap bounds? = [(1, 3)] ∧
        ∀ event ∈ run.2.events.toList, event.IsWarning := by
  intro first second page clock run
  have hlimit := Number.thousand_lt_numeralBound
  have hw : page.Writable := by
    constructor <;> simp [page] <;> omega
  have ht : ∃ time, Number.wholePart (clock.span 1) = .ok time :=
    ⟨0, by decide +kernel⟩
  obtain ⟨header, -, hb, hstop, -⟩ :=
    (write_first_failure {} [] {} "node" clock page).1 ⟨hw, ht⟩
  obtain ⟨finished, opening, hf, ho, hcause, hcontent, hwarnings, -⟩ :=
    hstop [first] second [first] (.malformedField "size_i" "n/a") rfl (by decide) rfl
  have hblock : blocks {} [] "node" 0 0 [first] = .ok [["<R N=\"1\">\n", "<T>Assam</T>\n",
      "<HAS><L/><C SZ=\"0k\" CID=\"a\" ENC=\"UTF-8\"/></HAS>",
      "<ENT_SOURCE>node</ENT_SOURCE>\n", "</R>\n"]] := rfl
  have hopening : hitOpening {} 0 1 = .ok "<R N=\"2\" L=\"2\">\n" := rfl
  refine ⟨hw, ht, header, hcause, ?_, hb, hwarnings⟩
  rw [hcontent, ← Except.ok.inj (hblock.symm.trans hf), ← Except.ok.inj (hopening.symm.trans ho),
    List.append_assoc]
  rfl

/-- Every hit of an empty page can be given. Still it fails if its first rank has too many digits, or
if its time has no whole part. -/
theorem write_unwritable :
    let far : Page := { offset := Number.numeralBound - 1, rows := 10, found := 0, hits := [] }
    let near : Page := { offset := 0, rows := 10, found := 0, hits := [] }
    (∃ t, far.write {} [] {} "node" { clock := Clock.ofList [0.0] } = (.error .numberTooLong, t) ∧
        t.events.toList.filter (·.level = "DEBUG") = []) ∧
      ∃ t, near.write {} [] {} "node" { clock := Clock.ofList [0.0, 1e308] } =
          (.error .durationInfinite, t) ∧
        t.events.toList.filter (·.level = "DEBUG") = [] := by
  intro far near
  have hlimit := Number.thousand_lt_numeralBound
  refine ⟨write_headerless ?_, write_headerless ?_⟩
  · have htime : Number.wholePart ((Clock.ofList [0.0]).span 1) = .ok 0 := by
      decide +kernel
    have hstart : Number.write far.offset = .ok (toString far.offset) := by
      apply Number.write_of_lt
      change ((Number.numeralBound : Int) - 1).natAbs < Number.numeralBound
      omega
    have hrows : Number.write far.rows = .ok (toString far.rows) := by
      apply Number.write_of_lt
      change 10 < Number.numeralBound
      omega
    have hfirst : Number.write (far.offset + 1) = .error .numberTooLong := by
      refine Number.write_eq_error.mpr ⟨?_, rfl⟩
      change Number.numeralBound ≤ ((Number.numeralBound : Int) - 1 + 1).natAbs
      omega
    rw [headerTexts, params, opening, htime, hstart, hrows, hfirst]
    rfl
  · have htime : Number.wholePart ((Clock.ofList [0.0, 1e308]).span 1) =
        .error .durationInfinite := by
      decide +kernel
    rw [headerTexts, htime]
    rfl

end Page

end SearchAppliance
