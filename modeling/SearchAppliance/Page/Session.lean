import SearchAppliance.Clock
import SearchAppliance.Log

namespace SearchAppliance

/-- The texts on a stream so far. A stream with a capacity takes that many and then closes. -/
structure Stream where
  texts : Array Text := #[]
  capacity : Option Nat := none

namespace Stream

/-- Everything that was written. -/
def content (s : Stream) : Text := Text.join s.texts.toList

def isOpen (s : Stream) : Bool := s.capacity.all (s.texts.size < ·)

end Stream

/-- What a session works on. -/
structure Session where
  stream : Stream := {}
  clock : Clock := ⟨fun _ => 0.0, 0⟩
  events : Array Event := #[]

/-- A part of a session: it changes what the session works on, and succeeds or fails. -/
abbrev Writing (α : Type) := ExceptT Failure (StateM Session) α

namespace Writing

/-- Hands one text to the stream. -/
def write (text : Text) : Writing Unit := fun s =>
  if s.stream.isOpen then
    (.ok (), { s with stream := { s.stream with texts := s.stream.texts.push text } })
  else (.error .streamClosed, s)

/-- Hands a text to the stream if there is one. -/
def writeIfAny (text : Option Text) : Writing Unit :=
  match text with
  | some t => write t
  | none => pure ()

/-- Hands texts to the stream, in order. -/
def writeAll : List (Option Text) → Writing Unit
  | [] => pure ()
  | text :: rest => do
    writeIfAny text
    writeAll rest

/-- An outcome that is known already. -/
def ofExcept {α : Type} (outcome : Except Failure α) : Writing α := fun s => (outcome, s)

/-- Reports the events of an operation and goes on with its outcome. -/
def ofLogged {α : Type} (a : Logged α) : Writing α := fun s =>
  (a.outcome, { s with events := s.events ++ a.events.toArray })

def report (event : Event) : Writing Unit := fun s =>
  (.ok (), { s with events := s.events.push event })

/-- Uses the clock of the session. -/
def timed {α : Type} (use : Clock → α × Clock) : Writing α := fun s =>
  let (a, clock) := use s.clock
  (.ok a, { s with clock := clock })

/-- Runs the second part after the first one, also when that one failed; the failure comes after it. -/
def andAlways {α β : Type} (part : Writing α) (after : Writing β) : Writing (α × β) := fun s =>
  match part s with
  | (.ok a, s) =>
    match after s with
    | (.ok b, s) => (.ok (a, b), s)
    | (.error cause, s) => (.error cause, s)
  | (.error cause, s) => (.error cause, (after s).2)

end Writing

end SearchAppliance
