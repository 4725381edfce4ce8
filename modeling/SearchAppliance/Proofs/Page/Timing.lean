import SearchAppliance.Proofs.Page.Truncation
import SearchAppliance.Proofs.Stopwatch

namespace SearchAppliance

open Settings (PageOptions)

namespace Writing

variable {α : Type} {p : Writing α}

/-- Another clock makes no difference to a part that does not use it. -/
theorem Untimed.run_withClock (h : Untimed p) (s : Session) (clock : Clock) :
    p (s.withClock clock) = ((p s).1, (p s).2.withClock clock) := by
  induction h generalizing s with
  | ofExcept outcome => rfl
  | write text =>
    unfold Writing.write
    split <;> simp_all [Session.withClock]
  | ofLogged hwarn => rfl
  | @bind _ _ p f _ _ hp hf =>
    rw [bind_run, bind_run, hp]
    rcases p s with ⟨outcome, t⟩
    cases outcome with
    | ok a => exact hf a t
    | error cause => rfl

theorem Untimed.warnings (h : Untimed p) (s : Session) :
    ∃ warnings : List Event, (∀ event ∈ warnings, event.IsWarning) ∧
      (p s).2.events.toList = s.events.toList ++ warnings := by
  induction h generalizing s with
  | ofExcept outcome => exact ⟨[], by simp, by simp⟩
  | write text =>
    refine ⟨[], by simp, ?_⟩
    unfold Writing.write
    split <;> simp
  | @ofLogged _ a hwarn => exact ⟨a.events, hwarn, by simp [Session.add]⟩
  | @bind _ _ p f _ _ hp hf =>
    obtain ⟨warnings, hwarn, hevents⟩ := hp s
    rw [bind_run]
    rcases hrun : p s with ⟨outcome, t⟩
    rw [hrun] at hevents
    cases outcome with
    | ok a =>
      obtain ⟨more, hmore, hlast⟩ := hf a t
      refine ⟨warnings ++ more, ?_, ?_⟩
      · intro event he
        exact (List.mem_append.mp he).elim (hwarn event) (hmore event)
      · rw [← List.append_assoc, ← hevents]
        exact hlast
    | error cause => exact ⟨warnings, hwarn, hevents⟩

end Writing

namespace Page

open Writing

variable {options : PageOptions} {snippets : Snippets} {request : EchoedRequest}
  {identity : Text} {page : Page} {s : Session}

/-- On a stream that does not take the prolog nothing is written, and the time of the page is not
asked for. -/
theorem write_without_prolog (h : s.stream.isOpen = false) :
    page.write options snippets request identity s =
      (.error .streamClosed, s.withClock (s.clock.after 2)) := by
  obtain ⟨rest, -, hbody⟩ := readsOnce_writeBody options snippets request identity page
  let started := Stopwatch.start s.clock
  have hclosed : (s.withClock started.2).stream.isOpen = false := h
  have hrun : writeBody options snippets request identity page started.1 (s.withClock started.2) =
      (.error .streamClosed, s.withClock started.2) := by
    rw [hbody]
    exact bind_of_error (Writing.write_of_closed hclosed prolog)
  rw [write_of_body_error s hrun]
  rfl

/-- Past its prolog a page does not use the clock, but for the time that has gone by until then. -/
theorem write_past_prolog (options : PageOptions) (snippets : Snippets) (request : EchoedRequest)
    (identity : Text) (page : Page) :
    ∃ rest : Float → Writing Unit, (∀ elapsed, Untimed (rest elapsed)) ∧
      ∀ s : Session, s.stream.isOpen = true →
        page.write options snippets request identity s =
          match rest (s.clock.span 1) (s.add [prolog] []) with
          | (.ok _, t) => (.ok (), (t.withClock (s.clock.after 3)).add []
              [page.reportBetween request (s.clock.readings s.clock.taken)
                (s.clock.readings (s.clock.taken + 2))])
          | (.error cause, t) => (.error cause, t.withClock (s.clock.after 3)) := by
  obtain ⟨rest, hrest, hbody⟩ := readsOnce_writeBody options snippets request identity page
  refine ⟨rest, hrest, ?_⟩
  intro s hs
  let started := Stopwatch.start s.clock
  have hrun : writeBody options snippets request identity page started.1 (s.withClock started.2) =
      ((rest (s.clock.span 1) (s.add [prolog] [])).1,
        (rest (s.clock.span 1) (s.add [prolog] [])).2.withClock (s.clock.after 2)) := by
    have hopen : (s.withClock started.2).stream.isOpen = true := hs
    rw [hbody, bind_of_ok (Writing.write_of_open hopen prolog), bind_of_ok (timed_run _ _),
      ← (hrest _).run_withClock]
    rfl
  rcases hrest : rest (s.clock.span 1) (s.add [prolog] []) with ⟨outcome, t⟩
  rw [hrest] at hrun
  cases outcome with
  | ok done => exact write_of_body_ok s hrun
  | error cause => exact write_of_body_error s hrun

theorem clock_write (h : s.stream.isOpen = true) :
    (page.write options snippets request identity s).2.clock = s.clock.after 3 := by
  obtain ⟨rest, -, hwrite⟩ := write_past_prolog options snippets request identity page
  rw [hwrite s h]
  rcases rest (s.clock.span 1) (s.add [prolog] []) with ⟨outcome, t⟩
  cases outcome <;> rfl

/-- A page that was written entirely is reported with the time from the first reading to the third. -/
theorem events_write (h : s.stream.isOpen = true) :
    let run := page.write options snippets request identity s
    ∃ warnings : List Event, (∀ event ∈ warnings, event.IsWarning) ∧
      run.2.events.toList = s.events.toList ++ warnings ++
        if run.1.isOk then [page.reportBetween request (s.clock.readings s.clock.taken)
          (s.clock.readings (s.clock.taken + 2))] else [] := by
  obtain ⟨rest, hrest, hwrite⟩ := write_past_prolog options snippets request identity page
  obtain ⟨warnings, hwarn, hevents⟩ := (hrest (s.clock.span 1)).warnings (s.add [prolog] [])
  have hs : (s.add [prolog] []).events.toList = s.events.toList := by simp [Session.add]
  rw [hs] at hevents
  intro run
  have hrun : run = _ := hwrite s h
  refine ⟨warnings, hwarn, ?_⟩
  rcases hr : rest (s.clock.span 1) (s.add [prolog] []) with ⟨outcome, t⟩
  rw [hr] at hrun hevents
  cases outcome with
  | ok done => simp [hrun, ← hevents, Session.add, Session.withClock, Except.isOk, Except.toBool]
  | error cause => simp [hrun, ← hevents, Session.withClock, Except.isOk, Except.toBool]

/-- The readings matter only by the time from the first one to the second and to the third. -/
theorem write_withClock (h : s.stream.isOpen = true) {clock : Clock}
    (hfirst : clock.span 1 = s.clock.span 1) (hlast : clock.span 2 = s.clock.span 2) :
    let run := page.write options snippets request identity s
    page.write options snippets request identity (s.withClock clock) =
      (run.1, run.2.withClock (clock.after 3)) := by
  obtain ⟨rest, hrest, hwrite⟩ := write_past_prolog options snippets request identity page
  have hreport : page.reportBetween request (clock.readings clock.taken)
      (clock.readings (clock.taken + 2)) = page.reportBetween request
        (s.clock.readings s.clock.taken) (s.clock.readings (s.clock.taken + 2)) :=
    congrArg (Event.pageWritten _ _ _ _) hlast
  have hopen : (s.withClock clock).stream.isOpen = true := h
  intro run
  have hrun : run = _ := hwrite s h
  rw [hwrite _ hopen, hrun, Session.withClock_clock, hfirst, hreport, ← Session.withClock_add,
    (hrest _).run_withClock]
  rcases rest (s.clock.span 1) (s.add [prolog] []) with ⟨outcome, t⟩
  cases outcome <;> rfl

/-- A stopwatch that was stopped is frozen until its next start, and any other look takes one reading.
So a page costs three readings, however many hits it has and however it ends. -/
theorem write_readings :
    (∀ (clock : Clock) (steps : List Stopwatch.Step),
      let use := Stopwatch.run clock steps
      use.clock = clock.after (Stopwatch.readingsOf false steps) ∧
      (Stopwatch.Frozen steps →
        (∃ start finish, Stopwatch.StoppedAt clock steps start finish ∧
          use.perform .elapsed = (some (Stopwatch.milliseconds start finish), use)) ∧
        ∀ n, Stopwatch.run clock (steps ++ List.replicate n .elapsed) = use) ∧
      (¬Stopwatch.Frozen steps → ∃ start, Stopwatch.StartedAt clock steps start ∧
        use.perform .elapsed = (some (Stopwatch.milliseconds start (Stopwatch.next clock steps)),
          { use with clock := use.clock.after 1 })) ∧
      ∀ later, .start ∉ later → .stop ∉ later →
        let again := steps ++ .start :: later
        let use := Stopwatch.run clock again
        use.perform .elapsed = (some (Stopwatch.milliseconds (Stopwatch.next clock steps)
          (Stopwatch.next clock again)), { use with clock := use.clock.after 1 })) ∧
    ∀ (options : PageOptions) (snippets : Snippets) (request : EchoedRequest) (identity : Text)
      (page : Page) (s : Session),
      let run := page.write options snippets request identity s
      (s.stream.isOpen = true →
        run.2.clock = s.clock.after 3 ∧
        (∃ warnings : List Event, (∀ event ∈ warnings, event.IsWarning) ∧
          run.2.events.toList = s.events.toList ++ warnings ++
            if run.1.isOk then [page.reportBetween request (s.clock.readings s.clock.taken)
              (s.clock.readings (s.clock.taken + 2))] else []) ∧
        ∀ clock : Clock, clock.span 1 = s.clock.span 1 → clock.span 2 = s.clock.span 2 →
          page.write options snippets request identity (s.withClock clock) =
            (run.1, run.2.withClock (clock.after 3))) ∧
      (s.stream.isOpen = false → run = (.error .streamClosed, s.withClock (s.clock.after 2))) := by
  constructor
  · intro clock steps use
    refine ⟨Stopwatch.clock_run clock steps, ?_, Stopwatch.perform_running clock, ?_⟩
    · intro hfrozen
      exact ⟨Stopwatch.perform_frozen clock hfrozen, Stopwatch.run_looks hfrozen⟩
    · intro later hstart hstop
      exact Stopwatch.perform_restarted clock steps hstart hstop
  · intro options snippets request identity page s run
    refine ⟨?_, write_without_prolog⟩
    intro hopen
    refine ⟨clock_write hopen, events_write hopen, ?_⟩
    intro clock hfirst hlast
    exact write_withClock hopen hfirst hlast

end Page

end SearchAppliance
