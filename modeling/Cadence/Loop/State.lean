import Cadence.Cancellation.Machine
import Cadence.Fault
import Cadence.Loop.Command
import Cadence.Loop.Event
import Cadence.Loop.Executor
import Cadence.Loop.Groups
import Cadence.Log.Level

namespace Cadence

/-!
# The state of a scheduler loop

A loop has a registry of tasks, counters, and the sources by which its runs are
cancelled: the caller's own one, the stop source of the run, which is linked to
the caller's token, and the wake source, which is linked to the stop source and
replaced whenever the registry changes.  Two clocks are kept beside it: the
system clock, which may be set, and the uptime of the run, which only advances.

What happens while runs wait is a script, in the order of time; callbacks and
shell commands have their own.  Whatever happens is recorded, and events are also
logged.
-/

/-- A task: its id, its schedule and its action. -/
structure Task where
  id : Nat
  schedule : Schedule
  action : Action

namespace Task

/-- A task in messages: its id and, in brackets, its schedule. -/
def text (task : Task) : String :=
  toString task.id ++ " (" ++ task.schedule.raw ++ ")"

end Task

/-- What sources and tokens a loop holds. -/
inductive LoopSignal
  /-- The caller's source, and the token of it that a run is given. -/
  | external
  /-- The stop source of the run, and its token. -/
  | stop
  /-- The wake source. -/
  | wake
  /-- The token of the wake source that the last scan took. -/
  | wait
  deriving DecidableEq, Repr

/-- The counters of a loop, whether it runs, and how many tasks are registered. -/
structure LoopStatus where
  running : Bool
  loopCount : Nat
  cycleCount : Nat
  tasks : Nat
  deriving DecidableEq, Repr

/-- What a command answers. -/
inductive Reply
  | flag (value : Bool)
  | count (value : Nat)
  /-- The text of a task that was found. -/
  | task (text : Option String)
  /-- A task was made. -/
  | made (id : Nat) (isAsync : Bool)
  /-- A schedule was refused. -/
  | rejected (error : ParseError)
  /-- The command was refused. -/
  | refused (fault : Fault)
  /-- The texts of a task's schedule before and after; none for an unknown task. -/
  | swapped (texts : Option (String × String))
  | groups (groups : List OccurrenceGroup)
  | status (status : LoopStatus)
  | options (options : LoopOptions)
  /-- The caller waits for its run to begin. -/
  | waits

/-- How a run ended. -/
inductive RunOutcome
  /-- The run was stopped or cancelled. -/
  | ended
  /-- A task failed and its failure ended the run. -/
  | failed (failure : Failure)
  /-- The run was not accepted. -/
  | refused (fault : Fault)
  /-- The run is still going on. -/
  | unfinished
  deriving DecidableEq, Repr

/-- What happened, as far as anyone can tell. -/
inductive Record
  | event (event : LoopEvent)
  /-- A scan from a base second found the tasks that are due next. -/
  | scanned (base : Int) (due : Option OccurrenceGroup)
  /-- A batch was entered. -/
  | entered (clock : Int) (tasks : List Nat)
  /-- A batch that was entered at some time was left. -/
  | left (clock entered : Int) (tasks : List Nat)
  /-- An action started, with a token that was cancelled or not. -/
  | ran (id : Nat) (clock : Int) (cancelled : Bool)
  /-- An action that is not awaited started, with a token that was cancelled or not. -/
  | launched (id : Nat) (clock : Int) (cancelled : Bool)
  /-- A command was done. -/
  | answered (command : Command) (reply : Reply)
  /-- A run is over. -/
  | finished (outcome : RunOutcome) (clock : Int) (status : LoopStatus)

/-- Whether a record tells that a task was dispatched. -/
def Record.isDispatchOf (id : Nat) : Record → Bool
  | .event (.taskDispatched other) => other == id
  | _ => false

/-- What an event listener throws after it has recorded an event, if it throws.  It may depend on
all that was recorded before, so that equal events need not be treated alike. -/
structure Listener where
  throws : Array Record → LoopEvent → Option Failure

namespace Listener

/-- A listener that only records. -/
def silent : Listener := ⟨fun _ _ => none⟩

/-- A listener that throws the same whenever an event is the same. -/
instance : Coe (LoopEvent → Option Failure) Listener :=
  ⟨fun throws => ⟨fun _ => throws⟩⟩

end Listener

/-- A scheduler loop. -/
structure Loop where
  options : LoopOptions := {}
  /-- Log lines below this level are dropped. -/
  threshold : LogLevel := .trace
  /-- What the event listener throws. -/
  listenerThrows : Listener := .silent
  /-- What runs the shell commands of tasks. -/
  executor : Executor := .succeeding
  /-- All tasks that were ever made, by their ids. -/
  tasks : Table Nat Task := {}
  /-- The ids of the registered tasks, in the order in which they were added. -/
  registry : List Nat := []
  nextId : Nat := 1
  running : Bool := false
  /-- Whether a run is in progress, even one that was told to stop. -/
  inProgress : Bool := false
  /-- How many batches have been completed. -/
  loopCount : Nat := 0
  /-- How many scans have been made. -/
  cycleCount : Nat := 0
  signals : Cancellation.World LoopSignal := {}
  /-- The system clock in milliseconds since 1970. -/
  clock : Int := 0
  /-- The milliseconds that the run has lasted. -/
  uptime : Int := 0
  /-- What happens while the run waits, the next happening first. -/
  script : List TimedHappening := []
  /-- What the callbacks do when batches are entered, the next one first. -/
  onEnter : List (List Command) := []
  /-- What the callbacks do when batches are left, the next one first. -/
  onLeave : List (List Command) := []
  records : Array Record := #[]
  log : Array LogLine := #[]
  /-- How many asynchronous actions other than shell commands were started without being
  awaited. -/
  detachedRuns : Nat := 0
  /-- What the actions that were not awaited logged. -/
  detachedLog : Array LogLine := #[]

namespace Loop

/-- The counters and flags that can be asked for. -/
def status (loop : Loop) : LoopStatus :=
  ⟨loop.running, loop.loopCount, loop.cycleCount, loop.registry.length⟩

/-- The loop with one more record. -/
def record (loop : Loop) (record : Record) : Loop :=
  { loop with records := loop.records.push record }

/-- The loop with a line logged, if the line's level is high enough. -/
def logLine (loop : Loop) (level : LogLevel) (text : String) : Loop :=
  if level.reaches loop.threshold then
    { loop with log := loop.log.push ⟨loop.clock, level, text⟩ }
  else
    loop

/-- Logs an event and tells the listener; what the listener throws is only logged. -/
def emit (loop : Loop) (event : LoopEvent) : Loop :=
  let told := (loop.logLine event.level event.text).record (.event event)
  match loop.listenerThrows.throws loop.records event with
  | none => told
  | some failure => told.logLine .warn ("Event listener threw: " ++ failure.message)

/-- Whether an attempt to start a run is refused: because the loop is running, or because the
attempt is made on the thread of the run in progress. -/
def refusesStart (loop : Loop) (caller : Caller) : Bool :=
  loop.running || (caller == .own && loop.inProgress)

/-- The loop after an attempt that was refused. -/
def refuseStart (loop : Loop) : Loop :=
  loop.logLine .error "Scheduler loop is already running"

/-- How often a task has been dispatched. -/
def dispatches (loop : Loop) (id : Nat) : Nat :=
  loop.records.countP (Record.isDispatchOf id)

/-- Whether the run is told to stop. -/
def stopRequested (loop : Loop) : Bool :=
  loop.signals.isCancelled .stop

/-- Interrupts the wait of a running loop, and makes a new wake source for the next one. -/
def wake (loop : Loop) : Loop :=
  if loop.running then
    { loop with signals := (loop.signals.after (.cancel .wake)).after (.linked .wake .stop) }
  else
    loop

/-- Tells a running loop to stop. -/
def stop (loop : Loop) : Loop :=
  if loop.running then
    { loop with running := false, signals := loop.signals.after (.cancel .stop) }
  else
    loop

/-- Cancels the caller's token. -/
def cancelExternal (loop : Loop) : Loop :=
  { loop with signals := loop.signals.after (.cancel .external) }

/-- Lets time pass on both clocks. -/
def advance (loop : Loop) (span : Int) : Loop :=
  { loop with clock := loop.clock + span, uptime := loop.uptime + span }

/-- Moves both clocks on until the run has lasted so long; never back. -/
def advanceTo (loop : Loop) (uptime : Int) : Loop :=
  loop.advance (max 0 (uptime - loop.uptime))

/-- What actions that were not awaited logged, as a log shows it, in the order of the texts. -/
def detachedLines (loop : Loop) : List String :=
  (loop.detachedLog.toList.map LogLine.shown).mergeSort fun first second =>
    !(decide (second < first))

/-- The registered tasks with their schedules, in the order of the registry. -/
def schedules (loop : Loop) : List (Nat × Schedule) :=
  loop.registry.filterMap fun id => (loop.tasks.get? id).map fun task => (id, task.schedule)

end Loop

end Cadence
