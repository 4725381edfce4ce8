import SearchAppliance.Page.Session

namespace SearchAppliance

namespace Session

/-- Does the stream take every text? -/
def Endless (s : Session) : Prop := s.stream.capacity = none

/-- The session with further texts on its stream and further events. -/
def add (s : Session) (texts : List Text) (events : List Event) : Session :=
  { s with
    stream := { s.stream with texts := s.stream.texts ++ texts.toArray }
    events := s.events ++ events.toArray }

@[simp]
theorem add_nil (s : Session) : s.add [] [] = s := by simp [add]

@[simp]
theorem add_add (s : Session) (a b : List Text) (e f : List Event) :
    (s.add a e).add b f = s.add (a ++ b) (e ++ f) := by
  simp [add]

@[simp]
theorem add_clock (s : Session) (texts : List Text) (events : List Event) :
    (s.add texts events).clock = s.clock := rfl

@[simp]
theorem endless_add (s : Session) (texts : List Text) (events : List Event) :
    (s.add texts events).Endless ↔ s.Endless := Iff.rfl

/-- The session with another clock. -/
def withClock (s : Session) (clock : Clock) : Session := { s with clock := clock }

@[simp]
theorem withClock_clock (s : Session) (clock : Clock) : (s.withClock clock).clock = clock := rfl

@[simp]
theorem withClock_withClock (s : Session) (a b : Clock) :
    (s.withClock a).withClock b = s.withClock b := rfl

@[simp]
theorem withClock_add (s : Session) (clock : Clock) (texts : List Text) (events : List Event) :
    (s.add texts events).withClock clock = (s.withClock clock).add texts events := rfl

@[simp]
theorem endless_withClock (s : Session) (clock : Clock) :
    (s.withClock clock).Endless ↔ s.Endless := Iff.rfl

end Session

namespace Session

variable (start clock : Clock) (texts : List Text) (events : List Event)

/-- A session that began with nothing has just the texts that were added to it. -/
@[simp]
theorem texts_of_new :
    ((({ clock := start } : Session).withClock clock).add texts events).stream.texts =
      texts.toArray := by
  simp [add, withClock]

@[simp]
theorem content_of_new :
    ((({ clock := start } : Session).withClock clock).add texts events).stream.content =
      Text.join texts := by
  rw [Stream.content, texts_of_new]

@[simp]
theorem events_of_new :
    ((({ clock := start } : Session).withClock clock).add texts events).events =
      events.toArray := by
  simp [add, withClock]

end Session

namespace Writing

variable {α β : Type}

@[simp]
theorem bind_run (p : Writing α) (f : α → Writing β) (s : Session) :
    (p >>= f) s =
      match p s with
      | (.ok a, s) => f a s
      | (.error cause, s) => (.error cause, s) := by
  simp only [bind, ExceptT.bind, ExceptT.mk, StateT.bind]
  rcases p s with ⟨x, t⟩
  cases x <;> rfl

theorem bind_of_ok {p : Writing α} {f : α → Writing β} {s t : Session} {a : α}
    (h : p s = (.ok a, t)) : (p >>= f) s = f a t := by
  rw [bind_run, h]

theorem bind_of_error {p : Writing α} {f : α → Writing β} {s t : Session} {cause : Failure}
    (h : p s = (.error cause, t)) : (p >>= f) s = (.error cause, t) := by
  rw [bind_run, h]

/-- What fails at first fails as a whole, for the same reason. -/
theorem bind_error {p : Writing α} {f : α → Writing β} {s : Session} {cause : Failure}
    (h : (p s).1 = .error cause) : ((p >>= f) s).1 = .error cause := by
  rcases hp : p s with ⟨outcome, t⟩
  obtain rfl : outcome = .error cause := by rw [hp] at h; exact h
  rw [bind_of_error hp]

/-- What succeeds as a whole succeeds part by part. -/
theorem bind_eq_ok {p : Writing α} {f : α → Writing β} {s u : Session} {b : β}
    (h : (p >>= f) s = (.ok b, u)) : ∃ a t, p s = (.ok a, t) ∧ f a t = (.ok b, u) := by
  rw [bind_run] at h
  rcases hp : p s with ⟨outcome, t⟩
  rw [hp] at h
  cases outcome with
  | ok a => exact ⟨a, t, rfl, h⟩
  | error cause => cases h

@[simp]
theorem ofExcept_run (outcome : Except Failure α) (s : Session) :
    ofExcept outcome s = (outcome, s) := rfl

@[simp]
theorem ofLogged_run (a : Logged α) (s : Session) :
    ofLogged a s = (a.outcome, s.add [] a.events) := by
  simp [ofLogged, Session.add]

@[simp]
theorem timed_run (use : Clock → α × Clock) (s : Session) :
    timed use s = (.ok (use s.clock).1, s.withClock (use s.clock).2) := rfl

@[simp]
theorem report_run (event : Event) (s : Session) :
    report event s = (.ok (), s.add [] [event]) := by
  simp [report, Session.add]

theorem write_of_open {s : Session} (h : s.stream.isOpen = true) (text : Text) :
    write text s = (.ok (), s.add [text] []) := by
  simp [write, h, Session.add]

theorem write_of_closed {s : Session} (h : s.stream.isOpen = false) (text : Text) :
    write text s = (.error .streamClosed, s) := by
  simp [write, h]

@[simp]
theorem write_run {s : Session} (h : s.Endless) (text : Text) :
    write text s = (.ok (), s.add [text] []) := by
  have ho : s.stream.isOpen = true := by
    unfold Stream.isOpen
    rw [h]
    rfl
  exact write_of_open ho text

@[simp]
theorem writeIfAny_run {s : Session} (h : s.Endless) (text : Option Text) :
    writeIfAny text s = (.ok (), s.add text.toList []) := by
  cases text with
  | none => exact congrArg _ s.add_nil.symm
  | some text => exact write_run h text

@[simp]
theorem writeAll_run {s : Session} (h : s.Endless) (texts : List (Option Text)) :
    writeAll texts s = (.ok (), s.add (texts.filterMap id) []) := by
  induction texts generalizing s with
  | nil => exact congrArg _ s.add_nil.symm
  | cons text rest ih =>
    rw [writeAll, bind_run, writeIfAny_run h text]
    simp only [ih ((s.endless_add _ _).mpr h), Session.add_add]
    cases text <;> rfl

end Writing

end SearchAppliance
