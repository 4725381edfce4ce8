import Mathlib.Data.List.Induction
import SearchAppliance.Clock
import SearchAppliance.Proofs.Text.Cut

namespace SearchAppliance

/-- The clock after further readings. -/
def Clock.after (clock : Clock) (n : Nat) : Clock := { clock with taken := clock.taken + n }

@[simp]
theorem Clock.after_after (clock : Clock) (m n : Nat) :
    (clock.after m).after n = clock.after (m + n) := by
  simp [after, Nat.add_assoc]

theorem Clock.read_eq (clock : Clock) :
    clock.read = (clock.readings clock.taken, clock.after 1) := rfl

namespace Stopwatch

/-- What can be done with a stopwatch. -/
inductive Step where
  | start
  | stop
  | elapsed
  deriving DecidableEq, Repr

/-- A stopwatch and the clock that it reads. -/
structure Use where
  watch : Stopwatch := {}
  clock : Clock

/-- A step, with what it shows. -/
def Use.perform (use : Use) : Step → Option Float × Use
  | .start =>
    let (watch, clock) := Stopwatch.start use.clock
    (none, ⟨watch, clock⟩)
  | .stop =>
    let (watch, clock) := use.watch.stop use.clock
    (none, ⟨watch, clock⟩)
  | .elapsed =>
    let (time, clock) := use.watch.elapsed use.clock
    (some time, ⟨use.watch, clock⟩)

/-- A new stopwatch after steps. -/
def run (clock : Clock) (steps : List Step) : Use :=
  steps.foldl (fun use step => (use.perform step).2) { clock := clock }

/-- How many readings steps take, if the time is frozen or not when they begin. -/
def readingsOf : Bool → List Step → Nat
  | _, [] => 0
  | _, .start :: rest => 1 + readingsOf false rest
  | _, .stop :: rest => 1 + readingsOf true rest
  | true, .elapsed :: rest => readingsOf true rest
  | false, .elapsed :: rest => 1 + readingsOf false rest

/-- The reading that comes next after steps. -/
def next (clock : Clock) (steps : List Step) : Float :=
  clock.readings (clock.taken + readingsOf false steps)

/-- Is the time frozen after steps: was there a stop, and no start since then? -/
def Frozen (steps : List Step) : Prop :=
  ∃ before since, steps = before ++ .stop :: since ∧ .start ∉ since

/-- The reading of the last start among steps, zero if there was none. -/
inductive StartedAt (clock : Clock) (steps : List Step) : Float → Prop
  | never (h : .start ∉ steps) : StartedAt clock steps 0.0
  | last {before since : List Step} (h : steps = before ++ .start :: since) (hs : .start ∉ since) :
    StartedAt clock steps (next clock before)

/-- The readings of the last stop among steps and of the last start before that. -/
def StoppedAt (clock : Clock) (steps : List Step) (start finish : Float) : Prop :=
  ∃ before since, steps = before ++ .stop :: since ∧ .stop ∉ since ∧
    StartedAt clock before start ∧ finish = next clock before

variable {clock : Clock} {steps : List Step} {step : Step} {start finish : Float}

theorem run_concat (clock : Clock) (steps : List Step) (step : Step) :
    run clock (steps ++ [step]) = ((run clock steps).perform step).2 :=
  List.foldl_append

theorem clock_run (clock : Clock) (steps : List Step) :
    (run clock steps).clock = clock.after (readingsOf false steps) := by
  have hfold (use : Use) : (steps.foldl (fun use step => (use.perform step).2) use).clock =
      use.clock.after (readingsOf use.watch.stopped.isSome steps) := by
    induction steps generalizing use with
    | nil => rfl
    | cons step rest ih =>
      obtain ⟨⟨started, stopped⟩, clock⟩ := use
      cases step with
      | start => exact (ih _).trans (clock.after_after _ _)
      | stop => exact (ih _).trans (clock.after_after _ _)
      | elapsed =>
        cases stopped with
        | none => exact (ih _).trans (clock.after_after _ _)
        | some finish => exact ih _
  exact hfold { clock := clock }

/-- The next step that reads the clock takes this reading. -/
theorem read_run (clock : Clock) (steps : List Step) :
    (run clock steps).clock.read = (next clock steps, (run clock steps).clock.after 1) := by
  rw [Clock.read_eq, clock_run]
  rfl

theorem not_frozen_nil : ¬Frozen [] := by
  rintro ⟨before, since, h, -⟩
  simp at h

theorem frozen_concat :
    Frozen (steps ++ [step]) ↔ step = .stop ∨ step = .elapsed ∧ Frozen steps := by
  constructor
  · rintro ⟨before, since, h, hs⟩
    rcases List.eq_nil_or_concat since with rfl | ⟨since, last, rfl⟩
    · have hlast := (List.append_inj' h rfl).2
      exact Or.inl (List.singleton_inj.mp hlast)
    · rw [List.concat_eq_append] at h hs
      rw [← List.cons_append, ← List.append_assoc] at h
      obtain ⟨rfl, hlast⟩ := List.append_inj' h rfl
      obtain rfl := List.singleton_inj.mp hlast
      rw [List.mem_append, not_or, List.mem_singleton] at hs
      cases step with
      | start => exact absurd rfl hs.2
      | stop => exact Or.inl rfl
      | elapsed => exact Or.inr ⟨rfl, before, since, rfl, hs.1⟩
  · rintro (rfl | ⟨rfl, before, since, rfl, hs⟩)
    · exact ⟨steps, [], rfl, List.not_mem_nil⟩
    · exact ⟨before, since ++ [.elapsed], by simp, by simpa using hs⟩

theorem not_frozen_of_start {later : List Step} (h : .stop ∉ later) :
    ¬Frozen (steps ++ .start :: later) := by
  induction later using List.reverseRecOn with
  | nil => simp [frozen_concat]
  | append_singleton later step ih =>
    rw [List.mem_append, not_or, List.mem_singleton] at h
    rw [← List.cons_append, ← List.append_assoc, frozen_concat]
    rintro (rfl | ⟨-, hf⟩)
    · exact h.2 rfl
    · exact ih h.1 hf

theorem StartedAt.unique (h : StartedAt clock steps start) (h' : StartedAt clock steps finish) :
    start = finish := by
  cases h with
  | never hn =>
    cases h' with
    | never => rfl
    | last hs' => exact absurd (by simp [hs']) hn
  | last hs hn =>
    cases h' with
    | never hn' => exact absurd (by simp [hs]) hn'
    | last hs' hn' => rw [((Text.append_stop_inj hn hn').mp (hs.symm.trans hs')).1]

theorem startedAt_concat_start (clock : Clock) (steps : List Step) :
    StartedAt clock (steps ++ [.start]) (next clock steps) :=
  .last rfl List.not_mem_nil

theorem StartedAt.concat (h : StartedAt clock steps start) (hs : step ≠ .start) :
    StartedAt clock (steps ++ [step]) start := by
  cases h with
  | never hn => exact .never (by simpa [hn] using Ne.symm hs)
  | @last before since h hn =>
    have hsteps : steps ++ [step] = before ++ .start :: (since ++ [step]) := by simp [h]
    exact .last hsteps (by simpa [hn] using Ne.symm hs)

theorem stoppedAt_concat_stop (h : StartedAt clock steps start) :
    StoppedAt clock (steps ++ [.stop]) start (next clock steps) :=
  ⟨steps, [], rfl, List.not_mem_nil, h, rfl⟩

theorem StoppedAt.concat (h : StoppedAt clock steps start finish) (hs : step ≠ .stop) :
    StoppedAt clock (steps ++ [step]) start finish := by
  obtain ⟨before, since, rfl, hn, hstart, hfinish⟩ := h
  exact ⟨before, since ++ [step], by simp, by simpa [hn] using Ne.symm hs, hstart, hfinish⟩

/-- What a stopwatch remembers of the steps that were made with it. -/
structure Remembers (clock : Clock) (steps : List Step) (watch : Stopwatch) : Prop where
  started : StartedAt clock steps watch.started
  stopped : ∀ finish, watch.stopped = some finish → StoppedAt clock steps watch.started finish
  frozen : watch.stopped.isSome = true ↔ Frozen steps

theorem remembers_perform {use : Use} (h : Remembers clock steps use.watch)
    (hread : use.clock.read.1 = next clock steps) (step : Step) :
    Remembers clock (steps ++ [step]) (use.perform step).2.watch := by
  cases step with
  | start =>
    have hstart : (use.perform .start).2.watch = ⟨next clock steps, none⟩ := by
      rw [← hread]
      rfl
    rw [hstart]
    exact ⟨startedAt_concat_start clock steps, by simp, by simp [frozen_concat]⟩
  | stop =>
    have hstop : (use.perform .stop).2.watch = ⟨use.watch.started, some (next clock steps)⟩ := by
      rw [← hread]
      rfl
    rw [hstop]
    refine ⟨h.started.concat (by decide), ?_, by simp [frozen_concat]⟩
    rintro finish ⟨⟩
    exact stoppedAt_concat_stop h.started
  | elapsed =>
    refine ⟨h.started.concat (by decide), ?_, ?_⟩
    · intro finish hfinish
      exact (h.stopped finish hfinish).concat (by decide)
    · rw [frozen_concat]
      exact h.frozen.trans (by simp)

theorem remembers_run (clock : Clock) (steps : List Step) :
    Remembers clock steps (run clock steps).watch := by
  induction steps using List.reverseRecOn with
  | nil => exact ⟨.never List.not_mem_nil, by simp [run], by simp [run, not_frozen_nil]⟩
  | append_singleton steps step ih =>
    rw [run_concat]
    exact remembers_perform ih (congrArg Prod.fst (read_run clock steps)) step

/-- A frozen time is shown without a reading, and nothing is changed by a look at it. -/
theorem perform_frozen (clock : Clock) (h : Frozen steps) :
    ∃ start finish, StoppedAt clock steps start finish ∧
      (run clock steps).perform .elapsed = (some (milliseconds start finish), run clock steps) := by
  have hwatch := remembers_run clock steps
  obtain ⟨finish, hfinish⟩ := Option.isSome_iff_exists.mp (hwatch.frozen.mpr h)
  refine ⟨_, finish, hwatch.stopped finish hfinish, ?_⟩
  simp only [Use.perform, elapsed, hfinish]

/-- Stopped before it was ever started, and later stopped twice. -/
example (clock : Clock) :
    let early : List Step := [.stop, .elapsed]
    let steps := early ++ [.start, .elapsed, .stop, .elapsed]
    (run clock (steps ++ [.stop, .elapsed])).perform .elapsed =
      (some (milliseconds (next clock early) (next clock steps)), run clock (steps ++ [.stop])) := rfl

/-- A running time is shown by a reading of its own. -/
theorem perform_running (clock : Clock) (h : ¬Frozen steps) :
    ∃ start, StartedAt clock steps start ∧
      (run clock steps).perform .elapsed = (some (milliseconds start (next clock steps)),
        { run clock steps with clock := (run clock steps).clock.after 1 }) := by
  have hwatch := remembers_run clock steps
  have hstopped : (run clock steps).watch.stopped = none := by
    rw [← hwatch.frozen, Option.not_isSome_iff_eq_none] at h
    exact h
  refine ⟨_, hwatch.started, ?_⟩
  simp only [Use.perform, elapsed, hstopped, read_run]

/-- A new start discards what was there before. -/
theorem perform_restarted (clock : Clock) (steps : List Step) {later : List Step}
    (hstart : .start ∉ later) (hstop : .stop ∉ later) :
    let again := steps ++ .start :: later
    (run clock again).perform .elapsed =
      (some (milliseconds (next clock steps) (next clock again)),
        { run clock again with clock := (run clock again).clock.after 1 }) := by
  intro again
  obtain ⟨start, hs, hlook⟩ := perform_running clock (not_frozen_of_start hstop)
  rw [hs.unique (.last rfl hstart)] at hlook
  exact hlook

/-- Looks at a frozen time change nothing. -/
theorem run_looks (h : Frozen steps) (n : Nat) :
    run clock (steps ++ List.replicate n .elapsed) = run clock steps := by
  induction n with
  | zero => rw [List.replicate_zero, List.append_nil]
  | succ n ih =>
    obtain ⟨_, _, -, hlook⟩ := perform_frozen clock h
    rw [List.replicate_succ', ← List.append_assoc, run_concat, ih, hlook]

end Stopwatch

end SearchAppliance
