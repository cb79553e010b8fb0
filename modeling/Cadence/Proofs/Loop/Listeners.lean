import Cadence.Proofs.Loop.Runs

namespace Cadence

/-!
# Throwing listeners

What an event listener throws is caught where the event is told, and goes to the
log.  To hush a loop is to give it a listener that only records and to strike the
warnings about thrown values from its log.  Everything that a loop does commutes
with hushing it, function by function up to whole sessions, so that a listener that
throws changes nothing but the log, and adds nothing to it but warnings.
-/

/-- What the warnings about a throwing listener begin with. -/
def LogLine.listenerThrew : String :=
  "Event listener threw: "

/-- Whether a line warns that a listener threw something. -/
def LogLine.isListenerWarning
    (line : LogLine) :
    Bool :=
  line.level == .warn && LogLine.listenerThrew.toList.isPrefixOf line.text.toList

/-- A line of another level, or with another beginning, is no warning about a listener. -/
theorem LogLine.not_isListenerWarning
    {line : LogLine}
    (other :
      line.level ≠ .warn ∨
        LogLine.listenerThrew.toList.isPrefixOf line.text.toList = false) :
    line.isListenerWarning = false := by
  unfold isListenerWarning
  rcases other with level | text
  · simp [level]
  · simp [text]

/-- No event is logged as a warning. -/
theorem LoopEvent.level_ne_warn
    (event : LoopEvent) :
    event.level ≠ .warn := by
  cases event <;> simp [level]

namespace Loop

variable {loop : Loop}

/-- The loop with a listener that only records, and without warnings about what a listener
threw. -/
def hush
    (loop : Loop) :
    Loop :=
  { loop with
    listenerThrows := .silent
    log := loop.log.filter fun line => !line.isListenerWarning }

section Fields

variable (loop)

@[simp] theorem options_hush : loop.hush.options = loop.options := rfl
@[simp] theorem threshold_hush : loop.hush.threshold = loop.threshold := rfl
@[simp] theorem tasks_hush : loop.hush.tasks = loop.tasks := rfl
@[simp] theorem registry_hush : loop.hush.registry = loop.registry := rfl
@[simp] theorem running_hush : loop.hush.running = loop.running := rfl
@[simp] theorem inProgress_hush : loop.hush.inProgress = loop.inProgress := rfl
@[simp] theorem loopCount_hush : loop.hush.loopCount = loop.loopCount := rfl
@[simp] theorem signals_hush : loop.hush.signals = loop.signals := rfl
@[simp] theorem clock_hush : loop.hush.clock = loop.clock := rfl
@[simp] theorem uptime_hush : loop.hush.uptime = loop.uptime := rfl
@[simp] theorem onEnter_hush : loop.hush.onEnter = loop.onEnter := rfl
@[simp] theorem onLeave_hush : loop.hush.onLeave = loop.onLeave := rfl
@[simp] theorem stopRequested_hush : loop.hush.stopRequested = loop.stopRequested := rfl
@[simp] theorem status_hush : loop.hush.status = loop.status := rfl
@[simp] theorem executor_hush : loop.hush.executor = loop.executor := rfl
@[simp] theorem script_hush : loop.hush.script = loop.script := rfl
@[simp] theorem dispatches_hush : loop.hush.dispatches = loop.dispatches := rfl

@[simp] theorem refusesStart_hush (caller : Caller) :
    loop.hush.refusesStart caller = loop.refusesStart caller :=
  rfl

end Fields

section Telling

/-- A loop without such warnings is hushed by another listener alone. -/
theorem hush_of_unwarned
    (unwarned : ∀ line ∈ loop.log, line.isListenerWarning = false)
    (listener : Listener) :
    { loop with listenerThrows := listener }.hush = { loop with listenerThrows := .silent } := by
  have kept : (loop.log.filter fun line => !line.isListenerWarning) = loop.log :=
    Array.filter_eq_self.mpr fun line present => by simp [unwarned line present]
  unfold hush
  rw [kept]

@[simp] theorem record_hush
    (loop : Loop)
    (record : Record) :
    loop.hush.record record = (loop.record record).hush :=
  rfl

/-- Lines that are no warnings about a listener stay in the log. -/
theorem logLine_hush
    (loop : Loop)
    {level : LogLevel}
    {text : String}
    (other :
      level ≠ .warn ∨ LogLine.listenerThrew.toList.isPrefixOf text.toList = false) :
    loop.hush.logLine level text = (loop.logLine level text).hush := by
  have kept : (⟨loop.clock, level, text⟩ : LogLine).isListenerWarning = false :=
    LogLine.not_isListenerWarning other
  unfold logLine
  rw [threshold_hush]
  split
  · simp [hush, kept]
  · rfl

@[simp] theorem refuseStart_hush
    (loop : Loop) :
    loop.hush.refuseStart = loop.refuseStart.hush :=
  logLine_hush loop (Or.inl (by decide))

/-- Warnings about a listener are struck from the log. -/
theorem hush_logLine_listenerThrew
    (loop : Loop)
    (message : String) :
    (loop.logLine .warn (LogLine.listenerThrew ++ message)).hush = loop.hush := by
  have struck :
      (⟨loop.clock, .warn, LogLine.listenerThrew ++ message⟩ : LogLine).isListenerWarning = true := by
    simp [LogLine.isListenerWarning]
  unfold logLine
  split
  · simp [hush, struck]
  · rfl

/-- Whatever the listener throws, an event is recorded and logged. -/
@[simp] theorem emit_hush
    (loop : Loop)
    (event : LoopEvent) :
    loop.hush.emit event = (loop.emit event).hush := by
  have told : loop.hush.emit event =
      ((loop.logLine event.level event.text).record (.event event)).hush := by
    rw [← record_hush, ← logLine_hush loop (Or.inl event.level_ne_warn)]
    rfl
  rw [told]
  unfold emit
  split
  · rfl
  · exact (hush_logLine_listenerThrew _ _).symm

@[simp] theorem wake_hush
    (loop : Loop) :
    loop.hush.wake = loop.wake.hush := by
  unfold wake
  rw [running_hush]
  split <;> rfl

@[simp] theorem stop_hush
    (loop : Loop) :
    loop.hush.stop = loop.stop.hush := by
  unfold stop
  rw [running_hush]
  split <;> rfl

@[simp] theorem cancelExternal_hush
    (loop : Loop) :
    loop.hush.cancelExternal = loop.cancelExternal.hush :=
  rfl

@[simp] theorem advance_hush
    (loop : Loop)
    (span : Int) :
    loop.hush.advance span = (loop.advance span).hush :=
  rfl

@[simp] theorem advanceTo_hush
    (loop : Loop)
    (uptime : Int) :
    loop.hush.advanceTo uptime = (loop.advanceTo uptime).hush :=
  rfl

end Telling

section Registry

@[simp] theorem makeTask_hush
    (loop : Loop)
    (schedule : Schedule)
    (action : Action) :
    loop.hush.makeTask schedule action =
      ((loop.makeTask schedule action).1.hush, (loop.makeTask schedule action).2) :=
  rfl

/-- A change of the registry, after which the loop is woken and an event is told. -/
theorem wake_emit_hush
    (loop : Loop)
    (registry : List Nat)
    (event : LoopEvent) :
    ({ loop.hush with registry := registry }.wake.emit event) =
      ({ loop with registry := registry }.wake.emit event).hush := by
  rw [← emit_hush, ← wake_hush]
  rfl

@[simp] theorem register_hush
    (loop : Loop)
    (task : Task) :
    loop.hush.register task = ((loop.register task).1.hush, (loop.register task).2) := by
  unfold register
  rw [registry_hush]
  split
  · rfl
  · exact congrArg (·, true) (wake_emit_hush ..)

@[simp] theorem addTask_hush
    (loop : Loop)
    (schedule : Schedule)
    (action : Action) :
    loop.hush.addTask schedule action =
      ((loop.addTask schedule action).1.hush, (loop.addTask schedule action).2) := by
  simp [addTask]

@[simp] theorem addText_hush
    (loop : Loop)
    (text : String)
    (withSeconds : Bool)
    (action : Action) :
    loop.hush.addText text withSeconds action =
      ((loop.addText text withSeconds action).1.hush,
        (loop.addText text withSeconds action).2) := by
  unfold addText
  split
  · next error _ =>
    -- The text of the warning begins with an R, and not with an E.
    have other : LogLine.listenerThrew.toList.isPrefixOf
        ("Rejected task schedule '" ++ text ++ "': " ++ error.message).toList = false := by
      simp [LogLine.listenerThrew, List.isPrefixOf]
    rw [logLine_hush loop (Or.inr other)]
  · simp

@[simp] theorem addHandle_hush
    (loop : Loop)
    (id : Nat) :
    loop.hush.addHandle id = ((loop.addHandle id).1.hush, (loop.addHandle id).2) := by
  unfold addHandle
  rw [tasks_hush]
  split
  · rfl
  · exact register_hush ..

@[simp] theorem remove_hush
    (loop : Loop)
    (id : Nat) :
    loop.hush.remove id = ((loop.remove id).1.hush, (loop.remove id).2) := by
  unfold remove
  rw [registry_hush, tasks_hush]
  split
  · exact congrArg (·, true) (wake_emit_hush ..)
  · rfl

@[simp] theorem removeMany_hush
    (loop : Loop)
    (ids : List Nat) :
    loop.hush.removeMany ids = ((loop.removeMany ids).1.hush, (loop.removeMany ids).2) := by
  unfold removeMany
  simp only [registry_hush]
  rw [← emit_hush]
  by_cases changed : 0 < loop.registry.length - (loop.registry.filter fun id => id ∉ ids).length
  · simp only [changed, ↓reduceIte]
    rw [← wake_hush]
    rfl
  · simp only [changed, ↓reduceIte]
    rfl

@[simp] theorem removeAll_hush
    (loop : Loop) :
    loop.hush.removeAll = (loop.removeAll.1.hush, loop.removeAll.2) :=
  congrArg (·, loop.registry.length) (wake_emit_hush ..)

@[simp] theorem refresh_hush
    (loop : Loop) :
    loop.hush.refresh = loop.refresh.hush := by
  simp [refresh]

@[simp] theorem setSchedule_hush
    (loop : Loop)
    (task : Task)
    (schedule : Schedule) :
    loop.hush.setSchedule task schedule = (loop.setSchedule task schedule).hush :=
  rfl

@[simp] theorem registerConfigured_hush
    (loop : Loop)
    (tasks : List TaskConfig)
    (added : Nat) :
    loop.hush.registerConfigured tasks added =
      ((loop.registerConfigured tasks added).1.hush,
        (loop.registerConfigured tasks added).2) := by
  induction tasks generalizing loop added with
  | nil => rfl
  | cons config configs inductionHypothesis =>
      unfold registerConfigured
      split
      · rw [logLine_hush loop (Or.inl (by decide)), inductionHypothesis]
      · split
        · rw [logLine_hush loop (Or.inl (by decide))]
        · rw [addText_hush]
          rcases loop.addText config.schedule config.withSeconds
            (.shell config.isAsync config.command config.directory) with ⟨next, error | task⟩
          · simp only
            rw [logLine_hush next (Or.inl (by decide))]
          · simp only
            rw [logLine_hush next (Or.inl (by decide)), inductionHypothesis]

end Registry

section Commands

/-- Commands have the same effect and the same answer. -/
@[simp] theorem perform_hush
    (loop : Loop)
    (command : Command) :
    loop.hush.perform command = ((loop.perform command).1.hush, (loop.perform command).2) := by
  cases command with
  | add text withSeconds action =>
      simp only [perform, addText_hush]
      rcases loop.addText text withSeconds action with ⟨next, error | task⟩ <;> rfl
  | addSchedule text withSeconds action =>
      simp only [perform, addTask_hush]
      cases Schedule.parse text withSeconds <;> rfl
  | make text withSeconds action =>
      simp only [perform, makeTask_hush]
      cases Schedule.parse text withSeconds <;> rfl
  | setSchedule id text withSeconds =>
      simp only [perform, tasks_hush, setSchedule_hush]
      cases loop.tasks.get? id with
      | none => rfl
      | some task => cases Schedule.parse text withSeconds <;> rfl
  | register tasks =>
      simp only [perform, registerConfigured_hush]
      rcases loop.registerConfigured tasks 0 with ⟨next, fault | count⟩ <;> rfl
  | startWithin caller =>
      simp only [perform, refusesStart_hush, refuseStart_hush]
      split <;> rfl
  | _ => first | rfl | simp [perform]

@[simp] theorem execute_hush
    (loop : Loop)
    (command : Command) :
    loop.hush.execute command = (loop.execute command).hush := by
  simp [execute]

@[simp] theorem executeAll_hush
    (loop : Loop)
    (commands : List Command) :
    loop.hush.executeAll commands = (loop.executeAll commands).hush := by
  induction commands generalizing loop with
  | nil => rfl
  | cons command commands inductionHypothesis =>
      simp only [executeAll, List.foldl_cons, execute_hush]
      exact inductionHypothesis _

end Commands

section Batches

@[simp] theorem giveLater_hush
    (loop : Loop)
    (after : Int)
    (commands : List Command) :
    loop.hush.giveLater after commands = (loop.giveLater after commands).hush :=
  rfl

@[simp] theorem runDetached_hush
    (loop : Loop)
    (id : Nat)
    (action : Action) :
    loop.hush.runDetached id action = (loop.runDetached id action).hush := by
  cases action with
  | scripted isAsync first later =>
      simp only [runDetached, dispatches_hush]
      generalize Script.ofTurn first later (loop.dispatches id) = script
      cases script.failureAtLaunch with
      | some failure => rfl
      | none =>
          have begun := giveLater_hush
            ({ loop with detachedRuns := loop.detachedRuns + 1 }.record
              (.launched id loop.clock loop.stopRequested))
            (loop.uptime + script.cost) script.commands
          cases script.failure with
          | none => exact begun
          | some failure => exact congrArg (logDetached · id failure) begun
  | shell isAsync command directory =>
      simp only [runDetached, dispatches_hush, executor_hush]
      cases loop.executor.failure? id (loop.dispatches id) command directory <;> rfl

@[simp] theorem runAwaited_hush
    (loop : Loop)
    (id : Nat)
    (action : Action) :
    loop.hush.runAwaited id action =
      ((loop.runAwaited id action).1.hush, (loop.runAwaited id action).2) := by
  cases action with
  | scripted isAsync first later =>
      simp only [runAwaited, dispatches_hush]
      split
      · rfl
      · simp
  | shell isAsync command directory => rfl

@[simp] theorem runTask_hush
    (loop : Loop)
    (id : Nat) :
    loop.hush.runTask id = ((loop.runTask id).1.hush, (loop.runTask id).2) := by
  unfold runTask
  rw [tasks_hush]
  cases loop.tasks.get? id with
  | none => rfl
  | some task =>
      simp only [options_hush, runDetached_hush, runAwaited_hush]
      split <;> rfl

@[simp] theorem runTasks_hush
    (loop : Loop)
    (ids : List Nat) :
    loop.hush.runTasks ids = ((loop.runTasks ids).1.hush, (loop.runTasks ids).2) := by
  induction ids generalizing loop with
  | nil => rfl
  | cons id ids inductionHypothesis =>
      unfold runTasks
      rw [stopRequested_hush, emit_hush, runTask_hush]
      split
      · rfl
      · rcases (loop.emit (.taskDispatched id)).runTask id with ⟨ran, _ | failure⟩
        · exact inductionHypothesis ran
        · simp only [options_hush, emit_hush, inductionHypothesis]
          split <;> rfl

@[simp] theorem enterBatch_hush
    (loop : Loop)
    (tasks : List Nat) :
    loop.hush.enterBatch tasks = (loop.enterBatch tasks).hush := by
  unfold enterBatch
  simp only [record_hush, clock_hush, onEnter_hush]
  split
  · rfl
  · next commands others _ =>
    exact executeAll_hush { loop.record (.entered loop.clock tasks) with onEnter := others } commands

@[simp] theorem leaveBatch_hush
    (loop : Loop)
    (entered : Int)
    (tasks : List Nat) :
    loop.hush.leaveBatch entered tasks = (loop.leaveBatch entered tasks).hush := by
  unfold leaveBatch
  simp only [record_hush, clock_hush, onLeave_hush]
  split
  · rfl
  · next commands others _ =>
    exact executeAll_hush
      { loop.record (.left loop.clock entered tasks) with onLeave := others } commands

@[simp] theorem dispatch_hush
    (loop : Loop)
    (tasks : List Nat) :
    loop.hush.dispatch tasks = ((loop.dispatch tasks).1.hush, (loop.dispatch tasks).2) := by
  unfold dispatch
  rw [clock_hush, enterBatch_hush, runTasks_hush]
  rcases (loop.enterBatch tasks).runTasks tasks with ⟨ran, _ | failure⟩
  · simp only [leaveBatch_hush, loopCount_hush]
    exact congrArg (·, none) (emit_hush { ran.leaveBatch loop.clock tasks with loopCount := _ } _)
  · simp only [leaveBatch_hush]
    rw [logLine_hush _ (Or.inl (by decide))]

@[simp] theorem leaveRun_hush
    (loop : Loop) :
    loop.hush.leaveRun = loop.leaveRun.hush :=
  emit_hush { loop with running := false, inProgress := false } .loopStopped

@[simp] theorem scan_hush
    (loop : Loop) :
    loop.hush.scan = (loop.scan.1.hush, loop.scan.2) :=
  rfl

@[simp] theorem deadline_hush
    (loop : Loop)
    (due : OccurrenceGroup) :
    loop.hush.deadline due = loop.deadline due :=
  rfl

@[simp] theorem happen_hush
    (loop : Loop)
    (happening : Happening) :
    loop.hush.happen happening = (loop.happen happening).hush := by
  cases happening <;> simp [happen]

end Batches

end Loop

namespace Run

/-- The run of a hushed loop. -/
def hush
    (run : Run) :
    Run :=
  { run with loop := run.loop.hush }

@[simp] theorem loop_hush (run : Run) : run.hush.loop = run.loop.hush := rfl
@[simp] theorem phase_hush (run : Run) : run.hush.phase = run.phase := rfl
@[simp] theorem outcome_hush (run : Run) : run.hush.outcome = run.outcome := rfl

@[simp] theorem interrupted_hush
    (run : Run) :
    run.hush.interrupted = run.interrupted.hush := by
  unfold interrupted
  rw [loop_hush, Loop.stopRequested_hush]
  split
  · simp [hush]
  · rfl

@[simp] theorem afterHappening_hush
    (run : Run)
    (due : Option (OccurrenceGroup × Int)) :
    run.hush.afterHappening due = (run.afterHappening due).hush := by
  cases due with
  | none => rfl
  | some plan =>
      simp only [afterHappening, loop_hush, Loop.uptime_hush, Loop.signals_hush, apply_ite hush]
      rfl

@[simp] theorem wait?_hush
    (run : Run)
    (due : Option (OccurrenceGroup × Int)) :
    run.hush.wait? due = (run.wait? due).map hush := by
  have ended : (due.map fun plan => run.hush.timedOut plan.1 plan.2) =
      (due.map fun plan => run.timedOut plan.1 plan.2).map hush := by
    cases due <;> rfl
  unfold wait?
  rw [loop_hush, Loop.script_hush]
  cases run.loop.script with
  | nil => exact ended
  | cons next others =>
      simp only
      split
      · refine congrArg some ?_
        rw [← afterHappening_hush]
        refine congrArg (afterHappening · due) (congrArg (Run.mk · run.phase) ?_)
        exact Loop.happen_hush ({ run.loop with script := others }.advanceTo next.after) _
      · exact ended

/-- Hushed runs take the same steps. -/
theorem step?_hush
    (run : Run) :
    run.hush.step? = run.step?.map hush := by
  unfold step?
  rw [phase_hush]
  cases run.phase with
  | scanning =>
      simp only [loop_hush, Loop.stopRequested_hush, Loop.leaveRun_hush, Loop.scan_hush,
        Loop.deadline_hush]
      split <;> rfl
  | waiting due =>
      simp only [loop_hush, Loop.signals_hush, interrupted_hush, wait?_hush]
      split <;> rfl
  | dispatching due =>
      simp only [loop_hush, Loop.dispatch_hush]
      rcases run.loop.dispatch due.tasks with ⟨dispatched, _ | failure⟩
      · rfl
      · simp [hush]
  | «over» failure => rfl

@[simp] theorem runFor_hush
    (run : Run)
    (steps : Nat) :
    run.hush.runFor steps = (run.runFor steps).hush := by
  induction steps generalizing run with
  | zero => rfl
  | succ steps inductionHypothesis =>
      simp only [runFor, step?_hush]
      cases run.step? with
      | none => rfl
      | some next => exact inductionHypothesis next

end Run

namespace Loop

/-- A hushed loop refuses the same runs, and begins the others hushed. -/
theorem start_hush
    (loop : Loop)
    (caller : Caller)
    (request : RunRequest) :
    loop.hush.start caller request =
      match loop.start caller request with
      | .refused refused => .refused refused.hush
      | .waits => .waits
      | .started run => .started run.hush := by
  unfold start
  rw [refusesStart_hush, refuseStart_hush, inProgress_hush]
  split
  · rfl
  split
  · rfl
  · rw [signals_hush]
    generalize freshSignals loop.signals request = signals
    simp only [Run.hush]
    rw [← emit_hush]
    rfl

@[simp] theorem runToEnd_hush
    (loop : Loop)
    (run : SessionRun) :
    loop.hush.runToEnd run = (loop.runToEnd run).hush := by
  unfold runToEnd
  rw [start_hush]
  cases loop.start .another run.request with
  | refused refused => rfl
  | waits => rfl
  | started started => simp

@[simp] theorem obey_hush
    (loop : Loop)
    (statement : Statement) :
    loop.hush.obey statement = (loop.obey statement).hush := by
  cases statement <;> simp [obey]

theorem session_hush
    (loop : Loop)
    (statements : List Statement) :
    loop.hush.session statements = (loop.session statements).hush := by
  induction statements generalizing loop with
  | nil => rfl
  | cons statement statements inductionHypothesis =>
      simp only [session, List.foldl_cons, obey_hush]
      exact inductionHypothesis _

/-- What a listener throws changes nothing but the log.  A session with a listener that throws
whenever it likes, and the same session with one that only records, end alike but for warnings
about what was thrown, and the runs that can be started then stay alike at every step. -/
theorem session_of_silent_eq_hush
    (loop : Loop)
    (unwarned : ∀ line ∈ loop.log, line.isListenerWarning = false)
    (listener : Listener)
    (statements : List Statement) :
    { loop with listenerThrows := .silent }.session statements =
        ({ loop with listenerThrows := listener }.session statements).hush ∧
      ∀ request run,
        ({ loop with listenerThrows := listener }.session statements).start .another request =
            .started run →
          ∃ quiet,
            ({ loop with listenerThrows := .silent }.session statements).start .another request =
                .started quiet ∧
              ∀ steps, quiet.runFor steps = (run.runFor steps).hush := by
  rw [← hush_of_unwarned unwarned listener, session_hush]
  refine ⟨rfl, fun request run accepted => ⟨run.hush, ?_, run.runFor_hush⟩⟩
  rw [start_hush, accepted]

/-- A listener that throws something unexplained whenever something was recorded before. -/
def touchy : Listener :=
  ⟨fun recorded _ => if recorded.isEmpty then none else some .unexplained⟩

/-- Tasks for every minute and for every hour are added. -/
def addTwo : List Statement :=
  ["* * * * *", "0 * * * *"].map fun text =>
    .command (.add text false (.always false .idle))

/-- The touchy listener throws when the second task is added, and only the log shows it. -/
theorem session_of_silent_eq_hush_touchy :
    (({ listenerThrows := touchy } : Loop).session addTwo).log.size = 3 ∧
      (({} : Loop).session addTwo).log.size = 2 ∧
      (∀ line ∈ ({} : Loop).log, line.isListenerWarning = false) ∧
      (({ listenerThrows := .silent } : Loop).session addTwo =
          (({ listenerThrows := touchy } : Loop).session addTwo).hush ∧
        ∀ request run,
          (({ listenerThrows := touchy } : Loop).session addTwo).start .another request =
              .started run →
            ∃ quiet,
              (({ listenerThrows := .silent } : Loop).session addTwo).start .another request =
                  .started quiet ∧
                ∀ steps, quiet.runFor steps = (run.runFor steps).hush) := by
  have unwarned : ∀ line ∈ ({} : Loop).log, line.isListenerWarning = false := by decide
  exact ⟨by decide +kernel, by decide +kernel, unwarned,
    session_of_silent_eq_hush {} unwarned touchy addTwo⟩

end Loop

end Cadence
