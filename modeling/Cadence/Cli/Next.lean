import Cadence.Timestamp
import Cadence.Schedule.Parser
import Cadence.Schedule.Printer
import Cadence.Schedule.Occurrences
import Cadence.Cli.Options

namespace Cadence

/-!
# The `next` command

Prints the next occurrences of a schedule after an instant.
-/

/-- What a command of the tool leaves behind: its exit status and what it printed. -/
structure CliResult where
  status : Nat
  output : String := ""
  errors : String := ""
  deriving DecidableEq, Repr

namespace CliResult

/-- A command that failed with a message. -/
def failed (message : String) : CliResult :=
  { status := 1, errors := "Error: " ++ message ++ "\n" }

end CliResult

namespace Cli

/-- The instant after which occurrences are asked for: the current one unless another is given. -/
def startInstant (options : CliOptions) (now : Int) : Option Int :=
  if options.startAfter.isEmpty then some now else Timestamp.read? options.startAfter

/-- The lines that list the occurrences of a schedule. -/
def occurrenceLines (start : Int) (instants : List Int) : String :=
  if instants.isEmpty then
    "No occurrences after " ++ Timestamp.write start ++ "\n"
  else
    String.join (instants.map fun instant => Timestamp.write instant ++ "\n")

/-- Prints the next occurrences of the schedule that the options write. -/
def next (options : CliOptions) (now : Int) : CliResult :=
  match Schedule.parse options.expression options.withSeconds with
  | .error error => .failed error.message
  | .ok schedule =>
      match startInstant options now with
      | none => .failed ("invalid --from time '" ++ options.startAfter ++ "'")
      | some start =>
          if options.count < 1 then
            .failed "count must be at least 1"
          else
            let instants := schedule.occurrences start Schedule.maxTime options.count.toNat
            { status := 0
              output :=
                schedule.raw ++ "  ->  " ++ schedule.write ++ "\n" ++
                  occurrenceLines start instants }

end Cli

end Cadence
