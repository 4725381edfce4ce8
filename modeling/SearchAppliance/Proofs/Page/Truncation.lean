import SearchAppliance.Proofs.Page.Texts
import SearchAppliance.Proofs.Page.Untimed

namespace SearchAppliance

open Settings (PageOptions)

namespace Session

/-- The number of texts on the stream. -/
def count (s : Session) : Nat := s.stream.texts.size

/-- The same session on a stream that closes after `n` texts in all. -/
def closingAfter (s : Session) (n : Nat) : Session :=
  { s with stream := { s.stream with capacity := some n } }

@[simp]
theorem count_add (s : Session) (texts : List Text) (events : List Event) :
    (s.add texts events).count = s.count + texts.length := by
  simp [count, add]

@[simp]
theorem count_withClock (s : Session) (clock : Clock) : (s.withClock clock).count = s.count := rfl

@[simp]
theorem closingAfter_content (s : Session) (n : Nat) :
    (s.closingAfter n).stream.content = s.stream.content := rfl

@[simp]
theorem closingAfter_events (s : Session) (n : Nat) : (s.closingAfter n).events = s.events := rfl

@[simp]
theorem closingAfter_clock (s : Session) (n : Nat) : (s.closingAfter n).clock = s.clock := rfl

@[simp]
theorem closingAfter_withClock (s : Session) (n : Nat) (clock : Clock) :
    (s.closingAfter n).withClock clock = (s.withClock clock).closingAfter n := rfl

@[simp]
theorem closingAfter_add (s : Session) (n : Nat) (texts : List Text) (events : List Event) :
    (s.closingAfter n).add texts events = (s.add texts events).closingAfter n := rfl

theorem isOpen_closingAfter (s : Session) (n : Nat) :
    (s.closingAfter n).stream.isOpen = decide (s.count < n) := rfl

end Session

namespace Writing

variable {α β : Type}

/-- What a part hands over and reports on a stream that stays open. One that closes late makes no
difference; one that closes early ends the part there, with nothing but warnings until then. -/
structure Truncates (p : Writing α) (s : Session) (outcome : Except Failure α) (clock : Clock)
    (texts : List Text) (events : List Event) : Prop where
  whole : p s = (outcome, (s.withClock clock).add texts events)
  kept : ∀ n, s.count + texts.length ≤ n →
    p (s.closingAfter n) = (outcome, ((s.withClock clock).add texts events).closingAfter n)
  cut : ∀ n, s.count ≤ n → n < s.count + texts.length → ∃ last reported,
    reported <+: events ∧ (∀ event ∈ reported, event.IsWarning) ∧
      p (s.closingAfter n) = (.error .streamClosed,
        ((s.withClock last).add (texts.take (n - s.count)) reported).closingAfter n)

/-- A part that is cut where the stream closes, and that reports nothing but warnings at all. -/
def Truncatable (p : Writing α) : Prop :=
  ∀ s : Session, s.Endless → ∃ outcome clock texts events,
    (∀ event ∈ events, event.IsWarning) ∧ Truncates p s outcome clock texts events

/-- A part that hands over nothing is never cut. -/
theorem truncates_silent {p : Writing α} {s : Session} {outcome : Except Failure α} {clock : Clock}
    {events : List Event} (h : p s = (outcome, (s.withClock clock).add [] events))
    (hn : ∀ n, p (s.closingAfter n) =
      (outcome, ((s.withClock clock).add [] events).closingAfter n)) :
    Truncates p s outcome clock [] events where
  whole := h
  kept := fun n _ => hn n
  cut := by
    intro n hle hlt
    simp only [List.length_nil] at hlt
    omega

theorem truncatable_ofExcept (outcome : Except Failure α) : Truncatable (ofExcept outcome) := by
  intro s hs
  refine ⟨outcome, s.clock, [], [], by simp, truncates_silent ?_ ?_⟩
  · rw [Session.add_nil]
    rfl
  · intro n
    rw [Session.add_nil]
    rfl

theorem truncatable_timed (use : Clock → α × Clock) : Truncatable (timed use) := by
  intro s hs
  refine ⟨.ok (use s.clock).1, (use s.clock).2, [], [], by simp, truncates_silent ?_ ?_⟩
  · rw [timed_run, Session.add_nil]
  · intro n
    rw [timed_run, Session.add_nil]
    rfl

theorem truncatable_ofLogged {a : Logged α} (h : ∀ event ∈ a.events, event.IsWarning) :
    Truncatable (ofLogged a) := by
  intro s hs
  refine ⟨a.outcome, s.clock, [], a.events, h, truncates_silent ?_ ?_⟩
  · exact ofLogged_run a s
  · intro n
    exact ofLogged_run a (s.closingAfter n)

theorem truncatable_write (text : Text) : Truncatable (write text) := by
  intro s hs
  refine ⟨.ok (), s.clock, [text], [], by simp, ?_, ?_, ?_⟩
  · exact write_run hs text
  · intro n hn
    rw [List.length_singleton] at hn
    have hopen : (s.closingAfter n).stream.isOpen = true := by
      rw [Session.isOpen_closingAfter, decide_eq_true_eq]
      omega
    exact write_of_open hopen text
  · intro n hle hlt
    rw [List.length_singleton] at hlt
    have hclosed : (s.closingAfter n).stream.isOpen = false := by
      rw [Session.isOpen_closingAfter, decide_eq_false_iff_not]
      omega
    have hnone : n - s.count = 0 := by omega
    refine ⟨s.clock, [], List.nil_prefix, by simp, ?_⟩
    rw [write_of_closed hclosed, hnone, List.take_zero, Session.add_nil]
    rfl

/-- Where the first part is cut, the second one is not reached; where the second one is cut, the first
one has handed over all its texts. -/
theorem Truncatable.bind {p : Writing α} {f : α → Writing β} (hp : Truncatable p)
    (hf : ∀ a, Truncatable (f a)) : Truncatable (p >>= f) := by
  intro s hs
  obtain ⟨outcome, clock, texts, events, hw, hp⟩ := hp s hs
  cases outcome with
  | error cause =>
    refine ⟨.error cause, clock, texts, events, hw, ?_, ?_, ?_⟩
    · rw [bind_run, hp.whole]
    · intro n hn
      rw [bind_run, hp.kept n hn]
    · intro n hle hlt
      obtain ⟨last, reported, hpre, hr, hcut⟩ := hp.cut n hle hlt
      exact ⟨last, reported, hpre, hr, by rw [bind_run, hcut]⟩
  | ok a =>
    let t := (s.withClock clock).add texts events
    have ht : t.count = s.count + texts.length := by simp [t]
    obtain ⟨outcome, clock', texts', events', hw', hf⟩ := hf a t hs
    refine ⟨outcome, clock', texts ++ texts', events ++ events', ?_, ?_, ?_, ?_⟩
    · intro event he
      exact (List.mem_append.mp he).elim (hw event) (hw' event)
    · rw [bind_run, hp.whole]
      exact hf.whole.trans (by simp [t])
    · intro n hn
      rw [List.length_append] at hn
      rw [bind_run, hp.kept n (by omega)]
      exact (hf.kept n (by omega)).trans (by simp [t])
    · intro n hle hlt
      rw [List.length_append] at hlt
      by_cases hfirst : n < s.count + texts.length
      · obtain ⟨last, reported, hpre, hr, hcut⟩ := hp.cut n hle hfirst
        refine ⟨last, reported, hpre.trans (List.prefix_append _ _), hr, ?_⟩
        rw [bind_run, hcut, List.take_append_of_le_length (by omega)]
      · obtain ⟨last, reported, hpre, hr, hcut⟩ := hf.cut n (by omega) (by omega)
        have hall : ∀ event ∈ events ++ reported, event.IsWarning := by
          intro event he
          exact (List.mem_append.mp he).elim (hw event) (hr event)
        refine ⟨last, events ++ reported, (List.prefix_append_right_inj events).mpr hpre, hall, ?_⟩
        have htexts : (texts ++ texts').take (n - s.count) =
            texts ++ texts'.take (n - t.count) := by
          rw [List.take_append, List.take_of_length_le (by omega), ht, Nat.sub_add_eq]
        rw [bind_run, hp.kept n (by omega), htexts]
        exact hcut.trans (by simp [t])

theorem Untimed.truncatable {p : Writing α} (h : Untimed p) : Truncatable p := by
  induction h with
  | ofExcept outcome => exact truncatable_ofExcept outcome
  | write text => exact truncatable_write text
  | ofLogged hwarn => exact truncatable_ofLogged hwarn
  | bind _ _ hp hf => exact hp.bind hf

end Writing

namespace Page

open Writing

variable {options : PageOptions} {snippets : Snippets} {request : EchoedRequest}
  {identity : Text} {page : Page}

theorem truncatable_writeBody (watch : Stopwatch) :
    Truncatable (writeBody options snippets request identity page watch) := by
  obtain ⟨rest, hrest, hbody⟩ := readsOnce_writeBody options snippets request identity page
  rw [hbody]
  apply (truncatable_write prolog).bind
  intro _
  apply (truncatable_timed watch.elapsed).bind
  intro elapsed
  exact (hrest elapsed).truncatable

theorem write_truncates (options : PageOptions) (snippets : Snippets) (request : EchoedRequest)
    (identity : Text) (page : Page) {s : Session} (hs : s.Endless) :
    ∃ outcome clock texts events,
      Truncates (page.write options snippets request identity) s outcome clock texts events := by
  let started := Stopwatch.start s.clock
  have hbody : Truncatable (writeBody options snippets request identity page started.1) :=
    truncatable_writeBody started.1
  obtain ⟨outcome, last, texts, events, -, hb⟩ := hbody (s.withClock started.2) hs
  have hcut : ∀ n, s.count ≤ n → n < s.count + texts.length → ∃ last reported,
      reported <+: events ∧ (∀ event ∈ reported, event.IsWarning) ∧
        page.write options snippets request identity (s.closingAfter n) = (.error .streamClosed,
          ((s.withClock last).add (texts.take (n - s.count)) reported).closingAfter n) := by
    intro n hle hlt
    obtain ⟨stop, reported, hpre, hr, hrun⟩ := hb.cut n hle hlt
    exact ⟨stop.read.2, reported, hpre, hr, write_of_body_error (s.closingAfter n) hrun⟩
  cases outcome with
  | error cause =>
    refine ⟨.error cause, last.read.2, texts, events, ?_, ?_, hcut⟩
    · exact write_of_body_error s hb.whole
    · intro n hn
      exact write_of_body_error (s.closingAfter n) (hb.kept n hn)
  | ok done =>
    let final := reportBetween request page s.clock.read.1 last.read.1
    refine ⟨.ok (), last.read.2, texts, events ++ [final], ?_, ?_, ?_⟩
    · rw [write_of_body_ok s hb.whole]
      simp [final, started]
    · intro n hn
      rw [write_of_body_ok (s.closingAfter n) (hb.kept n hn)]
      simp [final, started]
    · intro n hle hlt
      obtain ⟨stop, reported, hpre, hr, hrun⟩ := hcut n hle hlt
      exact ⟨stop, reported, hpre.trans (List.prefix_append _ _), hr, hrun⟩

/-- On a stream that closes after `n` texts a page leaves the first `n` of its texts. If there are
more, the writing ends with that, its reports are the warnings until then, and the page is not
reported; otherwise nothing is different. -/
theorem write_closing (options : PageOptions) (snippets : Snippets) (request : EchoedRequest)
    (identity : Text) (clock : Clock) (page : Page) (n : Nat) :
    let whole := page.write options snippets request identity { clock := clock }
    let run := page.write options snippets request identity
      { stream := { capacity := some n }, clock := clock }
    let texts := whole.2.stream.texts.toList
    run.2.stream.content = Text.join (texts.take n) ∧
      (n < texts.length → run.1 = .error .streamClosed ∧
        run.2.events.toList <+: whole.2.events.toList ∧
        ∀ event ∈ run.2.events.toList, event.IsWarning) ∧
      (texts.length ≤ n → run.1 = whole.1 ∧ run.2.events = whole.2.events ∧
        run.2.stream.content = whole.2.stream.content) := by
  intro whole run texts
  let s : Session := { clock := clock }
  obtain ⟨outcome, last, ts, events, hw⟩ :=
    write_truncates options snippets request identity page (s := s) rfl
  have hwhole : whole = _ := hw.whole
  have htexts : texts = ts := by
    simp [texts, hwhole, s]
  have hcount : s.count = 0 := rfl
  rw [htexts]
  by_cases hn : n < ts.length
  · obtain ⟨stop, reported, hpre, hr, hcut⟩ := hw.cut n (Nat.zero_le n) (by omega)
    have hrun : run = _ := hcut
    refine ⟨?_, fun _ => ⟨?_, ?_, ?_⟩, fun hle => absurd hn (Nat.not_lt.mpr hle)⟩
    · rw [hrun, hcount]
      simp [s]
    · rw [hrun]
    · rw [hrun, hwhole]
      simpa [s] using hpre
    · rw [hrun]
      simpa [s] using hr
  · have hle := Nat.le_of_not_lt hn
    have hrun : run = _ := hw.kept n (by omega)
    refine ⟨?_, fun hlt => absurd hlt hn, fun _ => ⟨?_, ?_, ?_⟩⟩
    · rw [hrun, List.take_of_length_le hle]
      simp [s]
    · rw [hrun, hwhole]
    · rw [hrun, hwhole]
      rfl
    · rw [hrun, hwhole]
      rfl

end Page

end SearchAppliance
