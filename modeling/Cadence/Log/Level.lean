namespace Cadence

/-!
# Log levels

How much a log line matters.  A log keeps the lines at its own level and above.
-/

/-- The levels of log lines, from the least to the greatest. -/
inductive LogLevel
  | trace
  | debug
  | info
  | warn
  | error
  deriving DecidableEq, Repr

namespace LogLevel

/-- The place of a level in their order. -/
def rank : LogLevel → Nat
  | trace => 0
  | debug => 1
  | info => 2
  | warn => 3
  | error => 4

/-- The name of a level. -/
def name : LogLevel → String
  | trace => "trace"
  | debug => "debug"
  | info => "info"
  | warn => "warn"
  | error => "error"

/-- The escape sequence that colours a level's name on a terminal. -/
def color : LogLevel → String
  | trace => "\x1b[90m"
  | debug => "\x1b[36m"
  | info => "\x1b[32m"
  | warn => "\x1b[33m"
  | error => "\x1b[31m"

/-- The level of a name; every other text names the info level. -/
def ofName (name : String) : LogLevel :=
  if name = "trace" then trace
  else if name = "debug" then debug
  else if name = "warn" then warn
  else if name = "error" then error
  else info

/-- Whether a log at level `threshold` keeps a line of this level. -/
def reaches (level threshold : LogLevel) : Bool :=
  threshold.rank ≤ level.rank

end LogLevel

/-- A log line: the clock in milliseconds since 1970, its level and its text. -/
structure LogLine where
  clock : Int
  level : LogLevel
  text : String
  deriving DecidableEq, Repr

namespace LogLine

/-- A log line without its time: the level in brackets, and the text. -/
def shown (line : LogLine) : String :=
  "[" ++ line.level.name ++ "] " ++ line.text

end LogLine

end Cadence
