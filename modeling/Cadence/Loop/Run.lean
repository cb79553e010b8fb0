import Cadence.Loop.Perform
import Cadence.Loop.Wait

namespace Cadence

/-!
# Runs of a loop

A run alternates between scans and waits.  A scan finds the tasks that are due
next and takes a token of the wake source.  The wait for the due instant ends
early if that token is cancelled: then the run ends if it is told to stop, and
scans again otherwise.  A wait that lasted until its deadline is followed by a
batch, unless the system clock was meanwhile set back before the due instant.

While the loop waits, a script of happenings takes place: each has its time in
the uptime of the run.  An action that is not awaited adds its commands to it.
Nothing else takes time but waits, the costs of actions and the commands that
advance the clocks.

A run is a sequence of steps, each from one phase to the next.
-/

/-- Where a run stands. -/
inductive Phase
  /-- About to scan, or to end if it is told to. -/
  | scanning
  /-- Waiting for the due tasks until a deadline, or without one if nothing is due. -/
  | waiting (due : Option (OccurrenceGroup × Int))
  /-- About to run the tasks of a batch. -/
  | dispatching (due : OccurrenceGroup)
  /-- Over, with the failure that ended it, if any. -/
  | over (failure : Option Failure)

/-- A run in progress: the loop and its phase. -/
structure Run where
  loop : Loop
  phase : Phase

namespace Loop

/-- The tasks that are due next after a base second, in the order of the registry. -/
def dueNext (schedules : List (Nat × Schedule)) (base : Int) : Option OccurrenceGroup :=
  schedules.foldl
    (fun due task =>
      let instant := task.2.nextOccurrence base Schedule.maxTime
      if Schedule.maxTime ≤ instant then
        due
      else
        match due with
        | none => some ⟨instant, [task.1]⟩
        | some group =>
            if instant < group.instant then
              some ⟨instant, [task.1]⟩
            else if instant = group.instant then
              some ⟨instant, group.tasks ++ [task.1]⟩
            else
              some group)
    none

/-- The loop with the failure of an action that was not awaited logged. -/
def logDetached (loop : Loop) (id : Nat) (failure : Failure) : Loop :=
  { loop with
    detachedLog :=
      loop.detachedLog.push ⟨loop.clock, .error, LoopEvent.failureText id failure.message⟩ }

/-- The loop with commands that are given when the run has lasted for some milliseconds, or in the
first wait after that. -/
def giveLater (loop : Loop) (after : Int) (commands : List Command) : Loop :=
  { loop with script := TimedHappening.insertInto ⟨after, .commands commands⟩ loop.script }

/-- Starts an action in a thread of its own, which is not awaited.  It takes its time while the run
goes on, and gives its commands when the run waits after that.  Its failure is only logged. -/
def runDetached (loop : Loop) (id : Nat) (action : Action) : Loop :=
  let turn := loop.dispatches id
  match action with
  | .scripted _ first later =>
      let script := Script.ofTurn first later turn
      let counted := { loop with detachedRuns := loop.detachedRuns + 1 }
      match script.failureAtLaunch with
      | some failure => counted.logDetached id failure
      | none =>
          let launched := counted.record (.launched id loop.clock loop.stopRequested)
          let acting := launched.giveLater (loop.uptime + script.cost) script.commands
          script.failure.elim acting (acting.logDetached id)
  | .shell _ command directory =>
      (loop.executor.failure? id turn command directory).elim loop (loop.logDetached id)

/-- Runs an action to its end, and answers how it failed, if it did. -/
def runAwaited (loop : Loop) (id : Nat) (action : Action) : Loop × Option Failure :=
  let turn := loop.dispatches id
  match action with
  | .scripted isAsync first later =>
      let script := Script.ofTurn first later turn
      match script.launchFailure? isAsync with
      | some failure => (loop, some failure)
      | none =>
          let started := loop.record (.ran id loop.clock loop.stopRequested)
          ((started.advance script.cost).executeAll script.commands, script.failure)
  | .shell _ command directory => (loop, loop.executor.failure? id turn command directory)

/-- Runs the action of a task, and answers how it failed, if that is known. -/
def runTask (loop : Loop) (id : Nat) : Loop × Option Failure :=
  match loop.tasks.get? id with
  | none => (loop, none)
  | some task =>
      if task.action.isAsync && !loop.options.awaitAsync then
        (loop.runDetached id task.action, none)
      else
        loop.runAwaited id task.action

/-- Runs the tasks of a batch until the run is told to stop, or until a failure that ends it. -/
def runTasks (loop : Loop) : List Nat → Loop × Option Failure
  | [] => (loop, none)
  | id :: ids =>
      if loop.stopRequested then
        (loop, none)
      else
        match (loop.emit (.taskDispatched id)).runTask id with
        | (ran, none) => ran.runTasks ids
        | (ran, some failure) =>
            if ran.options.rethrowFailures then
              (ran, some failure)
            else
              (ran.emit (.taskFailed id failure.message)).runTasks ids

/-- Enters a batch: the callback is told and gives its commands. -/
def enterBatch (loop : Loop) (tasks : List Nat) : Loop :=
  let told := loop.record (.entered loop.clock tasks)
  match told.onEnter with
  | [] => told
  | commands :: others => { told with onEnter := others }.executeAll commands

/-- Leaves a batch: the callback is told and gives its commands. -/
def leaveBatch (loop : Loop) (entered : Int) (tasks : List Nat) : Loop :=
  let told := loop.record (.left loop.clock entered tasks)
  match told.onLeave with
  | [] => told
  | commands :: others => { told with onLeave := others }.executeAll commands

/-- Runs a batch, and answers the failure that ends the run, if there is one.  Only a batch
without such a failure counts as completed. -/
def dispatch (loop : Loop) (tasks : List Nat) : Loop × Option Failure :=
  let entered := loop.clock
  let (ran, failure) := (loop.enterBatch tasks).runTasks tasks
  let left := ran.leaveBatch entered tasks
  match failure with
  | some failure => (left.logLine .error "Task failure ends the scheduler loop", some failure)
  | none =>
      ({ left with loopCount := left.loopCount + 1 }.emit
        (.batchCompleted (left.loopCount + 1) tasks.length), none)

/-- Ends the run. -/
def leaveRun (loop : Loop) : Loop :=
  { loop with running := false, inProgress := false }.emit .loopStopped

/-- Scans the registry for the tasks that are due next. -/
def scan (loop : Loop) : Loop × Option OccurrenceGroup :=
  let base := loop.clock / 1000
  let due := dueNext loop.schedules base
  ({ loop with
      cycleCount := loop.cycleCount + 1
      signals := loop.signals.after (.token .wait .wake) }.record (.scanned base due), due)

/-- The uptime at which the wait for a due instant ends. -/
def deadline (loop : Loop) (due : OccurrenceGroup) : Int :=
  loop.uptime +
    Wait.duration 1000 loop.clock (1000 * due.instant) loop.options.waitDensity

/-- What happens while the loop waits. -/
def happen (loop : Loop) : Happening → Loop
  | .commands commands => loop.executeAll commands
  | .stop => loop.stop
  | .cancel => loop.cancelExternal

end Loop

namespace Run

/-- The run after a wait that was interrupted. -/
def interrupted (run : Run) : Run :=
  if run.loop.stopRequested then
    { run with loop := (run.loop.emit .waitCancelled).leaveRun, phase := .over none }
  else
    { run with phase := .scanning }

/-- The run after a wait that lasted until its deadline. -/
def timedOut (run : Run) (due : OccurrenceGroup) (deadline : Int) : Run :=
  let waited := run.loop.advanceTo deadline
  { run with
    loop := waited
    phase := if waited.clock < 1000 * due.instant then .scanning else .dispatching due }

/-- The run after a happening of a wait: the wait goes on unless its deadline has passed, and an
interruption comes before that. -/
def afterHappening (run : Run) (due : Option (OccurrenceGroup × Int)) : Run :=
  match due with
  | none => run
  | some (group, deadline) =>
      if deadline ≤ run.loop.uptime && !run.loop.signals.isCancelled .wait then
        run.timedOut group deadline
      else
        run

/-- Whether a happening comes before the end of a wait.  That holds also at the deadline, and for a
happening that is late in a wait whose deadline was past from the start. -/
def comesFirst (next : TimedHappening) : Option (OccurrenceGroup × Int) → Bool
  | none => true
  | some (_, deadline) => next.after ≤ deadline

/-- The run after the next happening of a wait, or after its end; none if it never ends. -/
def wait? (run : Run) (due : Option (OccurrenceGroup × Int)) : Option Run :=
  match run.loop.script with
  | next :: others =>
      if comesFirst next due then
        let told := { run.loop with script := others }
        some <| afterHappening
          { run with loop := (told.advanceTo next.after).happen next.happening } due
      else
        due.map fun plan => run.timedOut plan.1 plan.2
  | [] => due.map fun plan => run.timedOut plan.1 plan.2

/-- The run after one step; none if it is over or waits forever. -/
def step? (run : Run) : Option Run :=
  match run.phase with
  | .scanning =>
      if run.loop.stopRequested then
        some { run with loop := run.loop.leaveRun, phase := .over none }
      else
        let (scanned, due) := run.loop.scan
        some
          { run with
            loop := scanned
            phase := .waiting (due.map fun group => (group, scanned.deadline group)) }
  | .waiting due =>
      if run.loop.signals.isCancelled .wait then
        some run.interrupted
      else
        run.wait? due
  | .dispatching due =>
      match run.loop.dispatch due.tasks with
      | (dispatched, none) => some { run with loop := dispatched, phase := .scanning }
      | (dispatched, some failure) =>
          some { run with loop := dispatched.leaveRun, phase := .over (some failure) }
  | .over _ => none

/-- The run after at most the given number of steps. -/
def runFor : Nat → Run → Run
  | 0, run => run
  | steps + 1, run =>
      match run.step? with
      | none => run
      | some next => runFor steps next

/-- How the run ended. -/
def outcome (run : Run) : RunOutcome :=
  match run.phase with
  | .over none => .ended
  | .over (some failure) => .failed failure
  | _ => .unfinished

end Run

/-- How a run is asked for. -/
structure RunRequest where
  /-- Whether the run is given the caller's token. -/
  withToken : Bool := true
  /-- Whether the caller's token is cancelled beforehand. -/
  cancelledBefore : Bool := false
  script : List TimedHappening := []

/-- What becomes of an attempt to start a run. -/
inductive Attempt
  /-- It is refused, and the loop has logged that. -/
  | refused (loop : Loop)
  /-- It is accepted, and waits for a run that was told to stop to come to its end. -/
  | waits
  | started (run : Run)

namespace Loop

/-- The sources of a new run: the stop source linked to the caller's token, if the run is given
it, and the wake source linked to the stop source. -/
def freshSignals (signals : Cancellation.World LoopSignal) (request : RunRequest) :
    Cancellation.World LoopSignal :=
  let external := signals.after (.source .external)
  let before := if request.cancelledBefore then external.after (.cancel .external) else external
  let given :=
    before.after (if request.withToken then .token .external .external else .detached .external)
  ((given.after (.linked .stop .external)).after (.token .stop .stop)).after (.linked .wake .stop)

/-- Tries to start a run.  A thread other than the loop's own can start one as soon as the loop is
not running any more; it waits until the run in progress is over, if there is one, and other threads
that try to start one wait behind it. -/
def start (loop : Loop) (caller : Caller) (request : RunRequest) : Attempt :=
  if loop.refusesStart caller then
    .refused loop.refuseStart
  else if loop.inProgress then
    .waits
  else
    let started :=
      { loop with
        running := true
        inProgress := true
        uptime := 0
        script := request.script
        signals := freshSignals loop.signals request }
    .started ⟨started.emit .loopStarted, .scanning⟩

end Loop

end Cadence
