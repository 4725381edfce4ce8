import SearchAppliance.Failure
import SearchAppliance.Number.Dyadic

namespace SearchAppliance

inductive Event where
  /-- A value was left out of a hit, with the identifier that the hit had until then. -/
  | valueSkipped (field : Text) (documentId : Option Text) (cause : Failure)
  /-- A page was written entirely. -/
  | pageWritten (offset : Int) (hits : Nat) (found : Int) (clause : Option Text)
      (milliseconds : Float)
  /-- A page could not be written in answer to a query. -/
  | pageRefused (query : Text) (cause : Failure)

namespace Event

def level : Event → String
  | valueSkipped _ _ _ => "WARNING"
  | pageWritten _ _ _ _ _ => "DEBUG"
  | pageRefused _ _ => "ERROR"

/-- A text that may be absent. -/
def orNone (text : Option Text) : Text := text.getD "None"

def message : Event → Text
  | valueSkipped field documentId cause =>
    "Skipping " ++ field ++ " on hit " ++ orNone documentId ++ ": " ++ cause.message
  | pageWritten offset hits found clause milliseconds =>
    s!"Wrote GSA page offset={offset} hits={hits} num_found={found} engine_sort=" ++ orNone clause
      ++ s!" in {Number.fixed milliseconds}ms"
  | pageRefused query cause =>
    s!"Cannot write result page for {Text.Quoted.quoted query}: {cause.message}"

def line (event : Event) : Text := event.level ++ ":" ++ event.message

end Event

/-- The outcome of an operation, and the events on the way to it. -/
structure Logged (α : Type) where
  events : List Event
  outcome : Except Failure α

namespace Logged

variable {α β : Type}

def ok (a : α) : Logged α := ⟨[], .ok a⟩

def fail (cause : Failure) : Logged α := ⟨[], .error cause⟩

/-- The same with an event before all others. -/
def after (event : Event) (a : Logged α) : Logged α := ⟨event :: a.events, a.outcome⟩

def map (f : α → β) (a : Logged α) : Logged β := ⟨a.events, a.outcome.map f⟩

end Logged

end SearchAppliance
