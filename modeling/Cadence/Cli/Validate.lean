import Cadence.Cli.Config
import Cadence.Cli.Next

namespace Cadence

namespace Cli

/-!
# The `validate` command

Checks every task of a configuration, enabled or not: a task is valid if its
schedule can be read and it has a command.
-/

/-- What is found about a task. -/
inductive Finding
  | scheduleRefused (error : ParseError)
  | commandMissing
  | valid (schedule : Schedule)
  deriving DecidableEq, Repr

namespace Finding

/-- The finding about a task; its schedule is looked at first. -/
def ofTask (task : TaskConfig) : Finding :=
  match Schedule.parse task.schedule task.withSeconds with
  | .error error => scheduleRefused error
  | .ok schedule => if task.command.isEmpty then commandMissing else valid schedule

/-- Whether a task is found valid. -/
def isValid : Finding → Bool
  | valid _ => true
  | _ => false

/-- When a schedule occurs next, in words. -/
def nextText (schedule : Schedule) (now : Int) : String :=
  let instant := schedule.nextOccurrence now Schedule.maxTime
  if Schedule.maxTime ≤ instant then "never" else Timestamp.write instant

/-- The line that reports a finding. -/
def line (task : TaskConfig) (now : Int) : Finding → String
  | scheduleRefused error => "✗ " ++ task.name ++ " - " ++ error.message ++ "\n"
  | commandMissing => "✗ " ++ task.name ++ " - No command\n"
  | valid schedule =>
      "✓ " ++ task.name ++ " - " ++ schedule.raw ++
        (if task.enabled then "" else " [disabled]") ++ " (next: " ++ nextText schedule now ++ ")\n"

end Finding

/-- How many of some tasks are valid. -/
def validCount (tasks : List TaskConfig) : Nat :=
  tasks.countP fun task => (Finding.ofTask task).isValid

/-- How many of some tasks are not valid. -/
def invalidCount (tasks : List TaskConfig) : Nat :=
  tasks.countP fun task => !(Finding.ofTask task).isValid

/-- Checks the tasks of a loaded configuration. -/
def validateTasks (file : String) (tasks : List TaskConfig) (now : Int) : CliResult :=
  if tasks.isEmpty then
    .failed ("No tasks defined in " ++ file)
  else
    let total := toString tasks.length
    let lines := String.join (tasks.map fun task => (Finding.ofTask task).line task now)
    { status := if invalidCount tasks = 0 then 0 else 1
      output :=
        "Validating " ++ total ++ " task(s) in " ++ file ++ "...\n\n" ++ lines ++ "\nSummary: " ++
          toString (validCount tasks) ++ " valid, " ++ toString (invalidCount tasks) ++
          " invalid out of " ++ total ++ " tasks\n" }

/-- Checks a configuration, if it could be loaded. -/
def validate (file : String) (config : Except Fault Config) (now : Int) : CliResult :=
  match config with
  | .error fault => .failed fault.message
  | .ok config => validateTasks file config.tasks now

end Cli

end Cadence
