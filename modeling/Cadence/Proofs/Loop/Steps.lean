import Cadence.Loop.Run

namespace Cadence

/-!
# Steps of a run

What one step of a run can be, with all that has to hold for it.  Proofs about
every step are case splits on it.
-/

namespace Loop

/-- An action that is not awaited can only add to the script, to its own log and to the count of
such actions, and its start is recorded unless it fails before that. -/
theorem runDetached_shape
    (loop : Loop)
    (id : Nat)
    (action : Action) :
    ∃ told : Loop,
      (told = loop ∨ told = loop.record (.launched id loop.clock loop.stopRequested)) ∧
        ∃ script runs log,
          loop.runDetached id action =
            { told with script := script, detachedRuns := runs, detachedLog := log } := by
  unfold runDetached
  cases action with
  | scripted isAsync first later =>
      dsimp only
      cases (Script.ofTurn first later (loop.dispatches id)).failureAtLaunch with
      | some failure => exact ⟨loop, Or.inl rfl, _, _, _, rfl⟩
      | none =>
          refine ⟨_, Or.inr rfl, ?_⟩
          cases (Script.ofTurn first later (loop.dispatches id)).failure <;> exact ⟨_, _, _, rfl⟩
  | shell isAsync command directory =>
      dsimp only
      cases loop.executor.failure? id (loop.dispatches id) command directory with
      | none => exact ⟨loop, Or.inl rfl, loop.script, loop.detachedRuns, loop.detachedLog, rfl⟩
      | some failure => exact ⟨loop, Or.inl rfl, _, _, _, rfl⟩

end Loop

namespace Run

/-- The run after the next happening of its script, before the wait may end. -/
def happened
    (run : Run)
    (happening : TimedHappening)
    (others : List TimedHappening) :
    Run :=
  { run with
    loop :=
      ({ run.loop with script := others }.advanceTo happening.after).happen happening.happening }

/-- One step of a run leads to another. -/
inductive Moves
    (run : Run) :
    Run → Prop where
  /-- The end of a run that was told to stop. -/
  | finish
      (scanning : run.phase = .scanning)
      (stopped : run.loop.stopRequested = true) :
      Moves run { run with loop := run.loop.leaveRun, phase := .over none }
  | scan
      (scanning : run.phase = .scanning)
      (going : run.loop.stopRequested = false) :
      Moves run
        { run with
          loop := run.loop.scan.1
          phase :=
            .waiting (run.loop.scan.2.map fun group => (group, run.loop.scan.1.deadline group)) }
  /-- The interruption of a wait in a run that was told to stop. -/
  | quit
      (due : Option (OccurrenceGroup × Int))
      (waiting : run.phase = .waiting due)
      (cancelled : run.loop.signals.isCancelled .wait = true)
      (stopped : run.loop.stopRequested = true) :
      Moves run { run with loop := (run.loop.emit .waitCancelled).leaveRun, phase := .over none }
  /-- The interruption of a wait in a run that goes on. -/
  | wake
      (due : Option (OccurrenceGroup × Int))
      (waiting : run.phase = .waiting due)
      (cancelled : run.loop.signals.isCancelled .wait = true)
      (going : run.loop.stopRequested = false) :
      Moves run { run with phase := .scanning }
  /-- A happening after which the wait goes on. -/
  | happen
      (due : Option (OccurrenceGroup × Int))
      (waiting : run.phase = .waiting due)
      (pending : run.loop.signals.isCancelled .wait = false)
      (happening : TimedHappening)
      (others : List TimedHappening)
      (script : run.loop.script = happening :: others)
      (first : comesFirst happening due = true) :
      Moves run (run.happened happening others)
  /-- A happening that takes until the deadline of the wait. -/
  | outlast
      (group : OccurrenceGroup)
      (deadline : Int)
      (waiting : run.phase = .waiting (some (group, deadline)))
      (pending : run.loop.signals.isCancelled .wait = false)
      (happening : TimedHappening)
      (others : List TimedHappening)
      (script : run.loop.script = happening :: others)
      (first : comesFirst happening (some (group, deadline)) = true)
      (passed : deadline ≤ (run.happened happening others).loop.uptime)
      (still : (run.happened happening others).loop.signals.isCancelled .wait = false) :
      Moves run ((run.happened happening others).timedOut group deadline)
  /-- The end of a wait in which nothing happens any more. -/
  | timeOut
      (group : OccurrenceGroup)
      (deadline : Int)
      (waiting : run.phase = .waiting (some (group, deadline)))
      (pending : run.loop.signals.isCancelled .wait = false)
      (quiet :
        ∀ happening ∈ run.loop.script.head?, comesFirst happening (some (group, deadline)) = false) :
      Moves run (run.timedOut group deadline)
  | batch
      (group : OccurrenceGroup)
      (dispatching : run.phase = .dispatching group)
      (dispatched : Loop)
      (result : run.loop.dispatch group.tasks = (dispatched, none)) :
      Moves run { run with loop := dispatched, phase := .scanning }
  /-- A batch whose failure ends the run. -/
  | fail
      (group : OccurrenceGroup)
      (dispatching : run.phase = .dispatching group)
      (dispatched : Loop)
      (failure : Failure)
      (result : run.loop.dispatch group.tasks = (dispatched, some failure)) :
      Moves run { run with loop := dispatched.leaveRun, phase := .over (some failure) }

variable {run next : Run}

/-- A step of a wait that is not interrupted. -/
theorem moves_of_wait?
    {due : Option (OccurrenceGroup × Int)}
    (waiting : run.phase = .waiting due)
    (pending : run.loop.signals.isCancelled .wait = false)
    (waited : run.wait? due = some next) :
    run.Moves next := by
  unfold wait? at waited
  cases script : run.loop.script with
  | nil =>
      simp only [script] at waited
      obtain ⟨⟨group, deadline⟩, rfl, rfl⟩ := Option.map_eq_some_iff.mp waited
      exact .timeOut group deadline waiting pending (by simp [script])
  | cons happening others =>
      cases first : comesFirst happening due with
      | false =>
          simp only [script, first, Bool.false_eq_true, ↓reduceIte] at waited
          obtain ⟨⟨group, deadline⟩, rfl, rfl⟩ := Option.map_eq_some_iff.mp waited
          exact .timeOut group deadline waiting pending (by simpa [script] using first)
      | true =>
          simp only [script, first, ↓reduceIte, Option.some.injEq, afterHappening] at waited
          cases due with
          | none =>
              subst waited
              exact .happen none waiting pending happening others script first
          | some plan =>
              obtain ⟨group, deadline⟩ := plan
              simp only at waited
              split at waited
              · next ends =>
                simp only [Bool.and_eq_true, decide_eq_true_eq, Bool.not_eq_true'] at ends
                subst waited
                exact .outlast group deadline waiting pending happening others script first
                  ends.1 ends.2
              · subst waited
                exact .happen _ waiting pending happening others script first

/-- Every step is one of these. -/
theorem moves_of_step?
    (stepped : run.step? = some next) :
    run.Moves next := by
  cases phase : run.phase with
  | scanning =>
      simp only [step?, phase] at stepped
      split at stepped
      · next stopped =>
        cases stepped
        exact .finish phase stopped
      · next going =>
        cases stepped
        exact .scan phase (Bool.eq_false_iff.mpr going)
  | waiting due =>
      simp only [step?, phase] at stepped
      split at stepped
      · next cancelled =>
        cases stepped
        unfold interrupted
        split
        · next stopped => exact .quit due phase cancelled stopped
        · next going => exact .wake due phase cancelled (Bool.eq_false_iff.mpr going)
      · next pending => exact moves_of_wait? phase (Bool.eq_false_iff.mpr pending) stepped
  | dispatching group =>
      simp only [step?, phase] at stepped
      split at stepped
      · next dispatched result =>
        cases stepped
        exact .batch group phase dispatched result
      · next dispatched failure result =>
        cases stepped
        exact .fail group phase dispatched failure result
  | «over» failure =>
      simp only [step?, phase] at stepped
      cases stepped

end Run

end Cadence
