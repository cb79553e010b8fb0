import Cadence.Proofs.Loop.Timeline

namespace Cadence

/-!
# Undisturbed runs

A run is undisturbed if nothing but the loop itself has an effect on when its
batches are run.  A secluded run is an example: nothing happens while it waits,
its tasks take no time and give no commands, and so do its callbacks.  A batch of
it leaves everything as it is but the records.
-/

namespace Action

/-- An action that never takes time or gives commands; it may fail. -/
def Harmless : Action → Prop
  | scripted _ first later => ∀ script ∈ later :: first, script.cost = 0 ∧ script.commands = []
  | shell .. => True

instance (action : Action) : Decidable action.Harmless :=
  match action with
  | scripted _ first later =>
      inferInstanceAs
        (Decidable (∀ script ∈ later :: first, script.cost = 0 ∧ script.commands = []))
  | shell .. => inferInstanceAs (Decidable True)

theorem harmless_idle
    (isAsync : Bool) :
    (always isAsync .idle).Harmless := by
  intro script present
  rw [List.mem_singleton.mp present]
  exact ⟨rfl, rfl⟩

end Action

namespace Loop

/-- Nothing is changed between two loops but counters, records and logs. -/
structure Untouched
    (before after : Loop) :
    Prop where
  sameTime : before.SameTime after
  options : after.options = before.options
  tasks : after.tasks = before.tasks
  registry : after.registry = before.registry
  nextId : after.nextId = before.nextId
  signals : after.signals = before.signals
  script : after.script = before.script
  onEnter : after.onEnter = before.onEnter
  onLeave : after.onLeave = before.onLeave

namespace Untouched

theorem refl
    (loop : Loop) :
    Untouched loop loop :=
  ⟨⟨rfl, rfl⟩, rfl, rfl, rfl, rfl, rfl, rfl, rfl, rfl⟩

theorem trans
    {first second third : Loop}
    (before : Untouched first second)
    (after : Untouched second third) :
    Untouched first third where
  sameTime :=
    ⟨after.sameTime.clock.trans before.sameTime.clock,
      after.sameTime.uptime.trans before.sameTime.uptime⟩
  options := after.options.trans before.options
  tasks := after.tasks.trans before.tasks
  registry := after.registry.trans before.registry
  nextId := after.nextId.trans before.nextId
  signals := after.signals.trans before.signals
  script := after.script.trans before.script
  onEnter := after.onEnter.trans before.onEnter
  onLeave := after.onLeave.trans before.onLeave

theorem emit
    (loop : Loop)
    (event : LoopEvent) :
    Untouched loop (loop.emit event) := by
  obtain ⟨_, _, told⟩ := loop.emit_shape event
  rw [told]
  exact ⟨⟨rfl, rfl⟩, rfl, rfl, rfl, rfl, rfl, rfl, rfl, rfl⟩

theorem logLine
    (loop : Loop)
    (level : LogLevel)
    (text : String) :
    Untouched loop (loop.logLine level text) := by
  unfold Loop.logLine
  split
  · exact ⟨⟨rfl, rfl⟩, rfl, rfl, rfl, rfl, rfl, rfl, rfl, rfl⟩
  · exact refl loop

theorem runAwaited
    (loop : Loop)
    (id : Nat)
    {action : Action}
    (harmless : action.Harmless) :
    Untouched loop (loop.runAwaited id action).1 := by
  cases action with
  | scripted isAsync first later =>
      obtain ⟨noTime, noCommands⟩ :=
        harmless _ (Script.ofTurn_mem first later (loop.dispatches id))
      simp only [Loop.runAwaited, noTime, noCommands]
      split
      · exact refl loop
      · exact ⟨⟨Int.add_zero _, Int.add_zero _⟩, rfl, rfl, rfl, rfl, rfl, rfl, rfl, rfl⟩
  | shell isAsync command directory => exact refl loop

end Untouched

/-- A loop of tasks that take no time and give no commands, without callbacks, which awaits its tasks
and goes on when one fails. -/
structure Harmless
    (loop : Loop) :
    Prop where
  actions : ∀ id task, loop.tasks.get? id = some task → task.action.Harmless
  onEnter : loop.onEnter = []
  onLeave : loop.onLeave = []
  awaits : loop.options.awaitAsync = true
  patient : loop.options.rethrowFailures = false

namespace Harmless

variable {loop next : Loop}

theorem keep
    (harmless : loop.Harmless)
    (untouched : loop.Untouched next) :
    next.Harmless where
  actions := untouched.tasks ▸ harmless.actions
  onEnter := untouched.onEnter.trans harmless.onEnter
  onLeave := untouched.onLeave.trans harmless.onLeave
  awaits := untouched.options ▸ harmless.awaits
  patient := untouched.options ▸ harmless.patient

/-- The start of a run only concerns the signals and the uptime. -/
theorem start
    (harmless : loop.Harmless)
    {request : RunRequest}
    {run : Run}
    (accepted : loop.start .another request = .started run) :
    run.loop.Harmless := by
  have started : (loop.started request).Harmless :=
    ⟨harmless.actions, harmless.onEnter, harmless.onLeave, harmless.awaits,
      harmless.patient⟩
  rw [(start_eq_started accepted).2]
  exact started.keep (.emit _ _)

theorem runTask
    (harmless : loop.Harmless)
    (id : Nat) :
    loop.Untouched (loop.runTask id).1 := by
  unfold Loop.runTask
  cases known : loop.tasks.get? id with
  | none => exact .refl loop
  | some task =>
      simp only [harmless.awaits, Bool.not_true, Bool.and_false, Bool.false_eq_true, ↓reduceIte]
      exact .runAwaited loop _ (harmless.actions id task known)

theorem runTasks
    (harmless : loop.Harmless)
    (ids : List Nat) :
    loop.Untouched (loop.runTasks ids).1 ∧ (loop.runTasks ids).2 = none := by
  induction ids generalizing loop with
  | nil => exact ⟨.refl loop, rfl⟩
  | cons id ids inductionHypothesis =>
      unfold Loop.runTasks
      split
      · exact ⟨.refl loop, rfl⟩
      have told : loop.Untouched (loop.emit (.taskDispatched id)) := .emit loop _
      have ran := told.trans ((harmless.keep told).runTask id)
      cases result : (loop.emit (.taskDispatched id)).runTask id with
      | mk last failure =>
          rw [result] at ran
          cases failure with
          | none =>
              obtain ⟨others, noFailure⟩ := inductionHypothesis (harmless.keep ran)
              exact ⟨ran.trans others, noFailure⟩
          | some failure =>
              have failed := ran.trans (.emit last (.taskFailed id failure.message))
              obtain ⟨others, noFailure⟩ := inductionHypothesis (harmless.keep failed)
              have patient : last.options.rethrowFailures = false := (harmless.keep ran).patient
              simp only [patient, Bool.false_eq_true, ↓reduceIte]
              exact ⟨failed.trans others, noFailure⟩

/-- A batch of such a loop leaves everything as it is, and never ends the run. -/
theorem dispatch
    (harmless : loop.Harmless)
    (tasks : List Nat) :
    loop.Untouched (loop.dispatch tasks).1 ∧ (loop.dispatch tasks).2 = none := by
  have entered : loop.Untouched (loop.enterBatch tasks) := by
    have told : loop.Untouched (loop.record (.entered loop.clock tasks)) :=
      ⟨⟨rfl, rfl⟩, rfl, rfl, rfl, rfl, rfl, rfl, rfl, rfl⟩
    unfold enterBatch
    simp only [told.onEnter.trans harmless.onEnter]
    exact told
  obtain ⟨ran, noFailure⟩ := (harmless.keep entered).runTasks tasks
  unfold Loop.dispatch
  cases result : (loop.enterBatch tasks).runTasks tasks with
  | mk last failure =>
      rw [result] at ran noFailure
      cases noFailure
      have left : last.Untouched (last.leaveBatch loop.clock tasks) := by
        have told : last.Untouched (last.record (.left last.clock loop.clock tasks)) :=
          ⟨⟨rfl, rfl⟩, rfl, rfl, rfl, rfl, rfl, rfl, rfl, rfl⟩
        have none := told.onLeave.trans ((harmless.keep entered).keep ran).onLeave
        unfold leaveBatch
        simp only [none]
        exact told
      have counted :
          (last.leaveBatch loop.clock tasks).Untouched
            { last.leaveBatch loop.clock tasks with
              loopCount := (last.leaveBatch loop.clock tasks).loopCount + 1 } :=
        ⟨⟨rfl, rfl⟩, rfl, rfl, rfl, rfl, rfl, rfl, rfl, rfl⟩
      exact ⟨(entered.trans ran).trans ((left.trans counted).trans (.emit _ _)), rfl⟩

end Harmless

theorem harmless_minutely :
    (eve.session addMinutely).Harmless := by
  have actions :
      ∀ entry ∈ (eve.session addMinutely).tasks.entries, entry.2.action.Harmless := by
    decide +kernel
  refine ⟨fun id task known => ?_, by decide +kernel, by decide +kernel, by decide +kernel,
    by decide +kernel⟩
  exact actions _ (Table.mem_entries_of_get? known)

end Loop

namespace Run

/-- Nothing disturbs a run that began with some tasks: time passes only in its waits, the tasks are
registered with their schedules as they were, the run is not told to stop, no failure has ended it,
and a wait is only interrupted before what it waits for is due. -/
structure Undisturbed
    (run : Run)
    (tasks : List (Nat × Schedule)) :
    Prop where
  timeless : run.Timeless
  unchanged : run.loop.schedules = tasks
  going : run.loop.stopRequested = false
  unfailed : ∀ failure, run.phase ≠ .over (some failure)
  early :
    ∀ due, run.phase = .waiting due → run.loop.signals.isCancelled .wait = true →
      ∃ group deadline, due = some (group, deadline) ∧ run.loop.clock < 1000 * group.instant

/-- A run to which nothing happens, of a loop whose tasks and callbacks do nothing that matters. -/
structure Secluded
    (run : Run)
    (tasks : List (Nat × Schedule)) :
    Prop where
  harmless : run.loop.Harmless
  alone : run.loop.script = []
  unchanged : run.loop.schedules = tasks
  going : run.loop.stopRequested = false
  goesOn : ∀ failure, run.phase ≠ .over failure
  pending : ∀ due, run.phase = .waiting due → run.loop.signals.isCancelled .wait = false

namespace Secluded

variable {run next : Run} {tasks : List (Nat × Schedule)}

/-- Nothing disturbs a secluded run. -/
theorem undisturbed
    (secluded : run.Secluded tasks) :
    run.Undisturbed tasks where
  timeless :=
    { happening := fun due happening others waiting script => by
        rw [secluded.alone] at script
        cases script
      batch := fun group dispatching => (secluded.harmless.dispatch group.tasks).1.sameTime }
  unchanged := secluded.unchanged
  going := secluded.going
  unfailed := fun failure => secluded.goesOn (some failure)
  early := fun due waiting cancelled => by
    rw [secluded.pending due waiting] at cancelled
    cases cancelled

/-- A secluded run stays so. -/
theorem step
    (secluded : run.Secluded tasks)
    (grounded : run.Grounded)
    (stepped : run.step? = some next) :
    next.Secluded tasks := by
  obtain ⟨harmless, alone, unchanged, going, goesOn, pending⟩ := secluded
  have ⟨actions, onEnter, onLeave, awaits, patient⟩ := harmless
  cases moves_of_step? stepped with
  | finish scanning stopped =>
      rw [going] at stopped
      cases stopped
  | scan scanning notStopped =>
      obtain ⟨goingAfter, pendingAfter⟩ := grounded.fresh_token scanning going
      exact ⟨⟨actions, onEnter, onLeave, awaits, patient⟩, alone, unchanged, goingAfter,
        fun _ ended => (by cases ended), fun _ _ => pendingAfter⟩
  | quit due waiting cancelled stopped =>
      rw [going] at stopped
      cases stopped
  | wake due waiting cancelled notStopped =>
      rw [pending due waiting] at cancelled
      cases cancelled
  | happen due waiting _ happening others script =>
      rw [alone] at script
      cases script
  | outlast group deadline waiting _ happening others script =>
      rw [alone] at script
      cases script
  | timeOut group deadline waiting =>
      refine ⟨⟨actions, onEnter, onLeave, awaits, patient⟩, alone, unchanged, going, ?_, ?_⟩
      · intro failure ended
        simp only [timedOut] at ended
        split at ended <;> cases ended
      · intro other waits
        simp only [timedOut] at waits
        split at waits <;> cases waits
  | batch group dispatching dispatched result =>
      obtain ⟨untouched, -⟩ := harmless.dispatch group.tasks
      rw [result] at untouched
      refine ⟨harmless.keep untouched, untouched.script.trans alone, ?_, ?_,
        fun _ ended => (by cases ended), fun _ waiting => (by cases waiting)⟩
      · rw [← unchanged]
        unfold Loop.schedules
        rw [untouched.registry, untouched.tasks]
      · rw [← going]
        unfold Loop.stopRequested
        rw [untouched.signals]
  | fail group dispatching dispatched failure result =>
      obtain ⟨-, noFailure⟩ := harmless.dispatch group.tasks
      rw [result] at noFailure
      cases noFailure

end Secluded

end Run

end Cadence
