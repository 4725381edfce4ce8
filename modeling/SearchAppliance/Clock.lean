namespace SearchAppliance

/-- A clock: all its readings in seconds, the past ones included, and how many have been taken. -/
structure Clock where
  readings : Nat → Float
  taken : Nat := 0

namespace Clock

/-- Takes the next reading. -/
def read (clock : Clock) : Float × Clock :=
  (clock.readings clock.taken, { clock with taken := clock.taken + 1 })

/-- The clock with the given readings; after them it stands still. -/
def ofList (readings : List Float) : Clock :=
  let table := readings.toArray
  let last := table.back?.getD 0.0
  ⟨fun n => table.getD n last, 0⟩

end Clock

/-- A stopwatch runs from when it is started, and shows a frozen time from when it is stopped. -/
structure Stopwatch where
  started : Float := 0.0
  stopped : Option Float := none

namespace Stopwatch

/-- Milliseconds between two readings of a clock. -/
def milliseconds (start finish : Float) : Float := (finish - start) * 1000.0

def start (clock : Clock) : Stopwatch × Clock :=
  let (now, clock) := clock.read
  (⟨now, none⟩, clock)

def stop (watch : Stopwatch) (clock : Clock) : Stopwatch × Clock :=
  let (now, clock) := clock.read
  ({ watch with stopped := some now }, clock)

/-- The milliseconds on the stopwatch. Only a running one reads the clock. -/
def elapsed (watch : Stopwatch) (clock : Clock) : Float × Clock :=
  match watch.stopped with
  | some finish => (milliseconds watch.started finish, clock)
  | none =>
    let (now, clock) := clock.read
    (milliseconds watch.started now, clock)

end Stopwatch

end SearchAppliance
