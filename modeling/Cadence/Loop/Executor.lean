import Cadence.Decimal
import Cadence.Fault
import Cadence.Loop.Command

namespace Cadence

/-!
# Shell commands as actions

A shell command run as an action fails if it cannot be run at all, or if it exits
with a status other than 0.  How the shell of a command ends is not for the loop to
say: whatever runs shells says so, for each dispatch anew.
-/

/-- How the shell of a command ended. -/
inductive ShellEnd
  /-- There was no process for it, or the process was lost. -/
  | lost
  | exited (status : Int)
  | killed (signal : Int)
  deriving DecidableEq, Repr

namespace ShellEnd

/-- The exit status of a command whose shell ended so; an empty command is refused. -/
def result (ending : ShellEnd) (command : String) : Except Fault Int :=
  if command.isEmpty then
    .error .invalidArgument
  else
    match ending with
    | lost => .error .processFailed
    | exited status => .ok status
    | killed signal => .ok (128 + signal)

end ShellEnd

/-- Why a shell command failed as an action. -/
inductive ShellFailure
  | refused (command : String) (fault : Fault)
  | exited (command : String) (status : Int)
  deriving DecidableEq, Repr

namespace ShellFailure

/-- The failure of an action. -/
def toFailure : ShellFailure → Failure
  | refused command fault => .described (command ++ ": " ++ fault.message)
  | exited command status =>
      .described
        ("'" ++ command ++ "' exited with status " ++ String.ofList (Decimal.write status))

/-- The failure of a shell command that came to a result; none if it succeeded. -/
def ofResult? (command : String) : Except Fault Int → Option ShellFailure
  | .error fault => some (refused command fault)
  | .ok status => if status = 0 then none else some (exited command status)

end ShellFailure

/-- What runs the shells of commands: how those end that a task runs in each of its dispatches,
which count from 1. -/
structure Executor where
  ends : (task turn : Nat) → (command directory : String) → ShellEnd

namespace Executor

/-- Every command succeeds. -/
def succeeding : Executor := ⟨fun _ _ _ _ => .exited 0⟩

/-- The failure of a shell command that a task runs in one of its dispatches, if it fails. -/
def failure? (executor : Executor) (task turn : Nat) (command directory : String) :
    Option Failure :=
  let ending := executor.ends task turn command directory
  (ShellFailure.ofResult? command (ending.result command)).map ShellFailure.toFailure

end Executor

end Cadence
