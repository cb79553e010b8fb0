import Cadence.Decimal
import Cadence.Log.Level

namespace Cadence

/-!
# Loop events

What a scheduler loop reports to its listener.  Every event is also logged, at
the level that suits it.
-/

/-- An event of a scheduler loop. -/
inductive LoopEvent
  | taskAdded (id : Nat) (schedule : String)
  | taskRemoved (id : Nat) (schedule : String)
  | tasksRemoved (count : Nat)
  | allTasksRemoved (count : Nat)
  | tasksRefreshed
  | loopStarted
  | loopStopped
  | waitCancelled
  | taskDispatched (id : Nat)
  | taskFailed (id : Nat) (message : String)
  | batchCompleted (loopCount size : Nat)
  deriving DecidableEq, Repr

namespace LoopEvent

/-- The level at which an event is logged. -/
def level : LoopEvent → LogLevel
  | taskAdded _ _ | taskRemoved _ _ | taskDispatched _ | batchCompleted _ _ => .info
  | taskFailed _ _ => .error
  | _ => .trace

/-- The text of a failed task in the log. -/
def failureText (id : Nat) (message : String) : String :=
  "Task " ++ toString id ++ " failed: " ++ message

/-- The text of an event in the log. -/
def text : LoopEvent → String
  | taskAdded id schedule => "Task added: " ++ toString id ++ " (" ++ schedule ++ ")"
  | taskRemoved id schedule => "Task removed: " ++ toString id ++ " (" ++ schedule ++ ")"
  | tasksRemoved count => "Removed " ++ toString count ++ " tasks"
  | allTasksRemoved count => "Removed all tasks (" ++ toString count ++ ")"
  | tasksRefreshed => "Tasks refreshed"
  | loopStarted => "Scheduler loop started"
  | loopStopped => "Scheduler loop stopped"
  | waitCancelled => "Scheduler wait cancelled"
  | taskDispatched id => "Task " ++ toString id ++ " signaled"
  | taskFailed id message => failureText id message
  | batchCompleted loopCount size =>
      "Batch " ++ toString loopCount ++ " complete: " ++ toString size ++ " task(s)"

end LoopEvent

end Cadence
