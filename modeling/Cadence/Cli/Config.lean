import Cadence.Loop.Command

namespace Cadence

/-!
# Configurations

A configuration as the commands of the tool use it: the log, the options of the
loop and the tasks.
-/

/-- Where log lines go, and from which level on. -/
structure LogConfig where
  level : String := "info"
  /-- The file that log lines are appended to; standard output if it is empty. -/
  file : String := ""
  deriving DecidableEq, Repr

/-- A loaded configuration. -/
structure Config where
  log : LogConfig := {}
  options : LoopOptions := {}
  tasks : List TaskConfig := []
  deriving DecidableEq, Repr

end Cadence
