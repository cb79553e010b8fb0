import Cadence.Field.ParseError
import Cadence.Text

namespace Cadence

/-!
# Commands and actions

Everything that is asked of a scheduler loop is data: the commands, the actions
of tasks, which may themselves give commands, and the settings of the loop.
-/

/-- How the loop treats its tasks. -/
structure LoopOptions where
  /-- How long past the due instant a wait may end, in milliseconds. -/
  waitDensity : Int := 100
  /-- Whether the loop waits for an asynchronous action before it goes on. -/
  awaitAsync : Bool := true
  /-- Whether a failing task ends the loop. -/
  rethrowFailures : Bool := false
  deriving DecidableEq, Repr

/-- Why an action failed. -/
inductive Failure
  /-- A failure with a description. -/
  | described (text : String)
  /-- A failure of which nothing is known. -/
  | unexplained
  deriving DecidableEq, Repr

namespace Failure

/-- The description, if there is one; it ends at its first U+0000. -/
def description? : Failure → Option String
  | described text => some (Text.untilNul text)
  | unexplained => none

/-- The text by which a failure is reported. -/
def message (failure : Failure) : String :=
  failure.description?.getD "unknown error"

end Failure

/-- A task as it is configured: a shell command with a schedule. -/
structure TaskConfig where
  name : String := ""
  schedule : String := ""
  withSeconds : Bool := false
  command : String := ""
  directory : String := ""
  isAsync : Bool := false
  enabled : Bool := true
  deriving DecidableEq, Repr

/-- The thread that asks for a run. -/
inductive Caller
  /-- The loop's own thread, on which a run calls actions and callbacks. -/
  | own
  | another
  deriving DecidableEq, Repr

mutual

/-- What can be asked of a loop, from outside or by an action or a callback of a run. -/
inductive Command
  /-- Adds a task with the schedule that a text writes. -/
  | add (text : String) (withSeconds : Bool) (action : Action)
  /-- Reads a schedule first, then adds a task with it. -/
  | addSchedule (text : String) (withSeconds : Bool) (action : Action)
  /-- Makes a task without adding it. -/
  | make (text : String) (withSeconds : Bool) (action : Action)
  /-- Adds a task that was made before. -/
  | addHandle (id : Nat)
  | remove (id : Nat)
  | removeHandle (id : Nat)
  | removeMany (ids : List Nat)
  | removeHandles (ids : List Nat)
  | removeAll
  | find (id : Nat)
  /-- Gives a task another schedule, without waking the loop. -/
  | setSchedule (id : Nat) (text : String) (withSeconds : Bool)
  /-- Takes the next task id. -/
  | takeId
  /-- The next occurrence of every task, in groups. -/
  | next (base : Int)
  /-- All occurrences of every task before a limit, in groups. -/
  | nextAll (base limit : Int)
  | refresh
  | stop
  /-- Cancels the token that the caller of the run holds. -/
  | cancel
  /-- Sets the system clock, in milliseconds since 1970. -/
  | setClock (clock : Int)
  /-- Lets time pass, in milliseconds. -/
  | advance (span : Int)
  | status
  | options
  | register (tasks : List TaskConfig)
  /-- Asks for another run.  An attempt that is not refused waits until no run is in progress; then
  what was asked for is the next run of the session. -/
  | startWithin (caller : Caller)

/-- What an action does in one of its dispatches: it takes some milliseconds, gives commands, and
then fails if a failure is given.  An asynchronous action may also fail before it has started. -/
structure Script where
  failureAtLaunch : Option Failure
  cost : Int
  commands : List Command
  failure : Option Failure

/-- What a task does when it is run. -/
inductive Action
  /-- Does what one script says in each of its first dispatches, and what another one says in all
  later ones. -/
  | scripted (isAsync : Bool) (first : List Script) (later : Script)
  /-- Runs a shell command in a directory; an empty directory is the current one. -/
  | shell (isAsync : Bool) (command directory : String)

end

namespace Script

/-- A script that does nothing. -/
def idle : Script := ⟨none, 0, [], none⟩

/-- A script that only fails. -/
def failing (failure : Failure) : Script := ⟨none, 0, [], some failure⟩

/-- The script of a dispatch by its number; dispatches count from 1. -/
def ofTurn (first : List Script) (later : Script) (turn : Nat) : Script :=
  first.getD (turn - 1) later

theorem ofTurn_mem (first : List Script) (later : Script) (turn : Nat) :
    ofTurn first later turn ∈ later :: first := by
  unfold ofTurn
  rw [List.getD_eq_getElem?_getD]
  cases found : first[turn - 1]? with
  | none => exact List.mem_cons_self
  | some script => exact List.mem_cons_of_mem _ (List.mem_of_getElem? found)

/-- The failure before a start, which only an asynchronous action can have. -/
def launchFailure? (script : Script) (isAsync : Bool) : Option Failure :=
  if isAsync then script.failureAtLaunch else none

/-- How an action that follows the script fails, if it does. -/
def failure? (script : Script) (isAsync : Bool) : Option Failure :=
  (script.launchFailure? isAsync).or script.failure

end Script

namespace Action

/-- An action that does the same in every dispatch. -/
def always (isAsync : Bool) (script : Script) : Action :=
  scripted isAsync [] script

/-- Whether an action is asynchronous. -/
def isAsync : Action → Bool
  | scripted isAsync _ _ => isAsync
  | shell isAsync _ _ => isAsync

end Action

/-- What happens while the loop waits. -/
inductive Happening
  | commands (commands : List Command)
  /-- The loop is told to stop. -/
  | stop
  /-- The caller's token is cancelled. -/
  | cancel

/-- Something that happens when the run has lasted for some milliseconds. -/
structure TimedHappening where
  after : Int
  happening : Happening

namespace TimedHappening

/-- A script of happenings with one more, behind all that are not later. -/
def insertInto (happening : TimedHappening) : List TimedHappening → List TimedHappening
  | [] => [happening]
  | next :: others =>
      if happening.after < next.after then
        happening :: next :: others
      else
        next :: insertInto happening others

end TimedHappening

end Cadence
