import Cadence.Decimal
import Cadence.Text

namespace Cadence

/-!
# Command line arguments

The arguments of the command line tool, read from the left.  The first argument
that asks for help or for the version, or that is at fault, ends the reading.
-/

/-- What the arguments ask for. -/
structure CliOptions where
  command : String := ""
  expression : String := ""
  configFile : String := ""
  startAfter : String := ""
  count : Int := 5
  withSeconds : Bool := false
  deriving DecidableEq, Repr

/-- Why the reading of the arguments ended before all of them were read. -/
inductive CliStop
  | help
  | version
  | missingArgument (flag : String)
  | invalidCount (text : String)
  | unknownOption (text : String)
  deriving DecidableEq, Repr

namespace CliOptions

/-- Whether an argument is written like a flag. -/
def isFlag (argument : String) : Bool :=
  argument.startsWith "-"

/-- Takes an argument that belongs to no flag: first the command, then the expression of `next`. -/
def takePlain (options : CliOptions) (argument : String) : Except CliStop CliOptions :=
  if isFlag argument then
    .error (.unknownOption argument)
  else if options.command.isEmpty then
    .ok { options with command := argument }
  else if options.command = "next" && options.expression.isEmpty then
    .ok { options with expression := argument }
  else
    .error (.unknownOption argument)

/-- Whether a flag takes the argument after it. -/
def takesArgument (flag : String) : Bool :=
  ["-c", "--config", "-n", "--count", "--from"].contains flag

/-- Takes a flag with its argument. -/
def takeFlag (options : CliOptions) (flag argument : String) : Except CliStop CliOptions :=
  if flag = "-c" || flag = "--config" then
    .ok { options with configFile := argument }
  else if flag = "--from" then
    .ok { options with startAfter := argument }
  else
    match Decimal.integer? argument.toList with
    | some count => .ok { options with count := count }
    | none => .error (.invalidCount argument)

/-- The options after the given arguments. -/
def takeAll (options : CliOptions) : List String → Except CliStop CliOptions
  | [] => .ok options
  | argument :: rest =>
      if argument = "-h" || argument = "--help" then
        .error .help
      else if argument = "-v" || argument = "--version" then
        .error .version
      else if argument = "-s" || argument = "--seconds" then
        { options with withSeconds := true }.takeAll rest
      else if takesArgument argument then
        match rest with
        | [] => .error (.missingArgument argument)
        | value :: rest => do
            let taken ← options.takeFlag argument value
            taken.takeAll rest
      else do
        let taken ← options.takePlain argument
        taken.takeAll rest

/-- The options that arguments ask for; every argument ends at its first U+0000. -/
def ofArguments (arguments : List String) : Except CliStop CliOptions :=
  takeAll {} (arguments.map Text.untilNul)

end CliOptions

end Cadence
