import Cadence.Cli.Validate
import Cadence.Cli.RunTasks

namespace Cadence

namespace Cli

/-!
# The command line tool

What the tool prints and with which status it exits, for given arguments.
-/

/-- The name of the tool. -/
def programName : String := "crontick"

/-- The help text. -/
def usage : String :=
  programName ++ " - cron expression parser and task scheduler\n" ++
    "Usage: " ++ programName ++ " <command> [OPTIONS]\n" ++
    "\n" ++
    "Commands:\n" ++
    "  next <expr>           Print the next occurrences of <expr>\n" ++
    "  validate              Check every task schedule in a config\n" ++
    "  run                   Run the tasks of a config until stopped\n" ++
    "\n" ++
    "Options:\n" ++
    "  -c, --config <file>   Config file (YAML)\n" ++
    "  -n, --count <n>       Occurrences to print (default: 5)\n" ++
    "  -s, --seconds         Expression has a leading seconds field\n" ++
    "  --from <time>         Start after YYYY-MM-DDTHH:MM:SS (UTC)\n" ++
    "  -v, --version         Show version and exit\n" ++
    "  -h, --help            Show this help message\n" ++
    "\n" ++
    "Examples:\n" ++
    "  " ++ programName ++ " next \"*/15 9-17 * * mon-fri\" -n 10\n" ++
    "  " ++ programName ++ " validate -c crontab.yaml\n" ++
    "  " ++ programName ++ " run -c crontab.yaml\n"

/-- The result of arguments that were not read to their end. -/
def stopped : CliStop → CliResult
  | .help => { status := 0, output := usage }
  | .version => { status := 0, output := programName ++ " v0.1.0\n" }
  | .missingArgument flag => .failed (flag ++ " requires an argument")
  | .invalidCount text => .failed ("invalid count: " ++ text)
  | .unknownOption text =>
      { status := 1, output := usage, errors := "Unknown option: " ++ text ++ "\n" }

/-- The result of a command with its options. -/
def obey (options : CliOptions) (surroundings : Surroundings) : CliResult :=
  if options.command = "next" then
    if options.expression.isEmpty then
      .failed "next requires a cron expression"
    else
      next options surroundings.now
  else if options.command = "validate" || options.command = "run" then
    if options.configFile.isEmpty then
      .failed (options.command ++ " requires a config file. Use -c <file>")
    else if options.command = "validate" then
      validate options.configFile surroundings.config surroundings.now
    else
      runTasks surroundings
  else if options.command.isEmpty then
    { status := 1, output := usage }
  else
    { status := 1, errors := "Unknown command: " ++ options.command ++ "\n" }

/-- The result of a call of the tool. -/
def call (arguments : List String) (surroundings : Surroundings) : CliResult :=
  match CliOptions.ofArguments arguments with
  | .error stop => stopped stop
  | .ok options => obey options surroundings

end Cli

end Cadence
