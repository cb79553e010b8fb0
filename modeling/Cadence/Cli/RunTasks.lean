import Cadence.Timestamp
import Cadence.Loop.Run
import Cadence.Cli.Config
import Cadence.Cli.Next

namespace Cadence

namespace Cli

/-!
# The `run` command

Registers the enabled tasks of a configuration and runs a loop with them until a
failure ends it, or until a shutdown signal arrives.  The log goes to standard
output unless a file is given that can be opened.
-/

/-- A log line as it is written, with the time, the level, which may be coloured, and the thread. -/
def writtenLine (isColoured : Bool) (thread : String) (line : LogLine) : String :=
  let level := if isColoured then line.level.color ++ line.level.name ++ "\x1b[0m"
    else line.level.name
  "[" ++ Timestamp.writeForLog (line.clock / 1000) ++ "] [" ++ level ++ "] [" ++ thread ++ "] " ++
    line.text ++ "\n"

/-- Where the lines of a log file end up. -/
inductive LogTarget
  | standardOutput
  | standardError
  | file
  /-- The file cannot be opened. -/
  | nowhere
  deriving DecidableEq, Repr

/-- What surrounds a call of the tool: the current second, what loading the configuration file
gives, after how many steps a running loop is shut down, the name of the thread, what runs shell
commands, and where the lines of a log file end up that is given by its path. -/
structure Surroundings where
  now : Int
  config : Except Fault Config
  patience : Nat
  thread : String
  executor : Executor
  logTarget : String → LogTarget

/-- The result of a command whose loop has logged. -/
def loggedResult (log : LogConfig) (surroundings : Surroundings) (status : Nat) (errors : String)
    (loop : Loop) : CliResult :=
  let text (isColoured : Bool) : String :=
    String.join (loop.log.toList.map (writtenLine isColoured surroundings.thread))
  if log.file.isEmpty then
    { status := status, output := text true, errors := errors }
  else
    match surroundings.logTarget log.file with
    | .standardOutput => { status := status, output := text false, errors := errors }
    | .standardError => { status := status, errors := text false ++ errors }
    | .file => { status := status, errors := errors }
    | .nowhere =>
        { status := status
          output := text true
          errors := "Warning: cannot open log file " ++ log.file ++ ", using stdout\n" ++ errors }

/-- The loop after a shutdown signal. -/
def shutDown (run : Run) : Run :=
  let told := (run.loop.logLine .info "Received shutdown signal, stopping...").stop
  { run with loop := told }.runFor 4

/-- The loop when it is over, with how it ended.  The shutdown signal arrives if the loop is not
over after `patience` steps. -/
def runUntilOver (started : Run) (patience : Nat) : Run :=
  let run := started.runFor patience
  match run.outcome with
  | .unfinished => shutDown run
  | _ => run

/-- The exit status after a run, and the loop with what is logged then. -/
def conclude (run : Run) : Nat × Loop :=
  match run.outcome with
  | .failed (.described text) =>
      (1,
        run.loop.logLine .error
          ("Scheduler loop terminated: " ++ (Failure.described text).message))
  | _ => (0, run.loop)

/-- Runs the tasks of a loaded configuration. -/
def runConfig (config : Config) (surroundings : Surroundings) : CliResult :=
  let idle : Loop :=
    { options := config.options
      threshold := LogLevel.ofName config.log.level
      executor := surroundings.executor
      clock := 1000 * surroundings.now }
  match idle.registerConfigured config.tasks 0 with
  | (refused, .error fault) =>
      loggedResult config.log surroundings 1 ("Error: " ++ fault.message ++ "\n") refused
  | (registered, .ok count) =>
      let warned :=
        if count = 0 then
          registered.logLine .warn "No enabled tasks; waiting for a shutdown signal"
        else
          registered
      let announced :=
        warned.logLine .info ("crontick starting with " ++ toString count ++ " task(s)...")
      match announced.start .another { withToken := false } with
      | .refused refused => loggedResult config.log surroundings 1 "" refused
      | .waits => loggedResult config.log surroundings 1 "" announced
      | .started started =>
          let (status, concluded) := conclude (runUntilOver started surroundings.patience)
          loggedResult config.log surroundings status ""
            (concluded.logLine .info "crontick stopped.")

/-- Runs the tasks of a configuration, if it could be loaded. -/
def runTasks (surroundings : Surroundings) : CliResult :=
  match surroundings.config with
  | .error fault => .failed ("Failed to load config: " ++ fault.message)
  | .ok config => runConfig config surroundings

end Cli

end Cadence
