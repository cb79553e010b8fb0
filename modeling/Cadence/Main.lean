import Std.Time.DateTime.Timestamp
import Cadence.Cli.Dispatch
import Cadence.Shell.LogFile

/-!
# The program

Reads the clock and the configuration file, and prints what the tool answers.
No configuration format is built in: a file that can be read is refused.
-/

namespace Cadence

/-- Why a configuration file cannot be loaded. -/
def loadConfig (file : String) : IO Fault := do
  try
    discard (IO.FS.readFile file)
    return .parseError
  catch _ =>
    return .fileNotFound

/-- The configuration file that the arguments name, or an empty text. -/
def configFileOf (arguments : List String) : String :=
  match CliOptions.ofArguments arguments with
  | .ok options => options.configFile
  | .error _ => ""

end Cadence

/-- Runs the tool with the arguments of the program. -/
def main (arguments : List String) : IO UInt32 := do
  let now ← Std.Time.Timestamp.now
  let fault ← Cadence.loadConfig (Cadence.configFileOf arguments)
  let result :=
    Cadence.Cli.call arguments
      { now := now.toSecondsSinceUnixEpoch.val
        config := .error fault
        patience := 1000000
        thread := "0"
        executor := Cadence.Shell.executor
        logTarget := Cadence.Shell.logTarget }
  IO.print result.output
  IO.eprint result.errors
  return result.status.toUInt32
