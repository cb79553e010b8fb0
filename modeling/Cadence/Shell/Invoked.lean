import Cadence.Host.Program
import Cadence.Shell.Builtin.Condition
import Cadence.Shell.Builtin.Directory
import Cadence.Shell.Builtin.Jobs
import Cadence.Shell.Builtin.Names
import Cadence.Shell.Builtin.Output
import Cadence.Shell.Descriptors

namespace Cadence

namespace Shell

open Host

/-!
# Functions, built-in commands and programs

What is done when a command is called by its arguments, of which the first one is
its name.
-/

/-- What a shell is made of: how it does tasks, and how it becomes a program. -/
structure Interpreter where
  evaluate : Evaluator
  launch : Launch

namespace Running

/-- Whether signals are handled, or the end of the shell is. -/
def hasTraps : Running Bool := do
  pure ((← get).traps.any fun trap => !trap.2.isEmpty)

/-- Takes the actions of the handled signals that have come; after a jump they have to wait. -/
def takeTraps (evaluate : Evaluator) : Running Unit := do
  let store ← get
  if !store.pendingSignals.isEmpty then
    let status := store.statusBeforeTrap.getD store.status
    let signals := store.pendingSignals.mergeSort fun first second => first ≤ second
    set { store with pendingSignals := [], statusBeforeTrap := some status }
    signals.forM fun signal => do
      let store ← get
      if store.skip ≠ .none then
        set { store with pendingSignals := store.pendingSignals ++ [signal] }
      else
        match store.traps.lookup signal with
        | none => pure ()
        | some action =>
            let _ ← evaluateText evaluate action {}
            if (← get).skip ≠ .returning then
              modify fun store => { store with status := status }
    modify fun later => { later with statusBeforeTrap := store.statusBeforeTrap }

/-- The status when a program cannot be started. -/
def statusOfRefusal (errno : Errno) : Nat :=
  match errno with
  | .noEntry | .notDirectory | .tooManyLinks | .nameTooLong => 127
  | _ => 126

/-- Tries to become a program in one of some directories; the answer is why that is refused. -/
def tryDirectories (launch : Launch) (name : List Char) (arguments : List (List Char))
    (surroundings : Surroundings) : Errno → List (List Char) → Job Errno
  | refusal, [] => pure refusal
  | refusal, directory :: rest => do
      let errno ← launch ⟨inDirectory directory name, arguments, surroundings⟩
      let isMissing := errno = .noEntry || errno = .notDirectory
      tryDirectories launch name arguments surroundings (if isMissing then refusal else errno) rest

/-- Becomes a program, or ends the shell because that is refused. -/
def become {α : Type} (launch : Launch) (directories : List (List Char))
    (arguments : List (List Char)) : Running α := do
  let surroundings := (← get).surroundings
  let name := arguments.headD []
  let errno ←
    if name.contains '/' then
      launch ⟨name, arguments, surroundings⟩
    else
      tryDirectories launch name arguments surroundings .noEntry directories
  let isMissing := errno = .noEntry || errno = .notDirectory
  warn (name ++ chars ": " ++ if isMissing then chars "not found" else errno.text)
  modify fun store => { store with status := statusOfRefusal errno }
  throw .failure

/-- Runs a program. -/
def callProgram (shell : Interpreter) (directories : List (List Char))
    (arguments : List (List Char)) (flags : Flags) : Running Nat := do
  if flags.isLast && !(← hasTraps) then
    become shell.launch directories arguments
  else
    waitForAll [← startCopy shell.evaluate .foreground (become shell.launch directories arguments)]

/-- How deeply functions may call functions. -/
def deepestCall : Nat := 1000

/-- Calls a function: it has arguments of its own, and loops around the call cannot be left. -/
def callFunction (evaluate : Evaluator) (body : Command) (arguments : List (List Char))
    (flags : Flags) : Running Nat := do
  let before ← get
  if deepestCall ≤ before.calls then
    fault (chars "Maximum function recursion depth (1000) reached")
  let leave : Running Unit :=
    modify fun store =>
      { store with
        arguments := before.arguments
        cursor := before.cursor
        loops := before.loops
        calls := before.calls }
  set { before with
        arguments := arguments.drop 1
        cursor := {}
        loops := 0
        calls := before.calls + 1 }
  try
    let _ ← evaluate (.command body { isTested := flags.isTested })
  catch stop =>
    leave
    throw stop
  leave
  modify fun store =>
    match store.skip with
    | .returning | .returningAsIs => { store with skip := .none }
    | _ => store
  pure (← get).status

/-- Leaves or repeats loops. -/
def jump (skip : Skip) (arguments : List (List Char)) : Running Nat := do
  let count ←
    match arguments with
    | [] => pure 1
    | text :: _ => do
        let count ← number text
        if count = 0 then
          fault (chars "Illegal number: " ++ text)
        pure count
  modify fun store =>
    let reachable := min count store.loops
    if reachable = 0 then store else { store with skip := skip, skipCount := reachable }
  pure 0

/-- Returns from a function or from a text. -/
def returnCommand (arguments : List (List Char)) : Running Nat := do
  match arguments with
  | [] =>
      modify fun store => { store with skip := .returningAsIs }
      pure (← get).status
  | text :: _ =>
      let status ← number text
      modify fun store => { store with skip := .returning }
      pure status

/-- Ends the shell. -/
def exitCommand (arguments : List (List Char)) : Running Nat := do
  let status ←
    match arguments with
    | [] => do
        let store ← get
        pure (store.statusBeforeTrap.getD store.status)
    | text :: _ => number text
  modify fun store => { store with status := status }
  exit

/-- The first file of a name in some directories. -/
def fileIn? (name : List Char) : List (List Char) → Running (Option (List Char))
  | [] => pure none
  | directory :: rest => do
      let path := inDirectory directory name
      match ← ask (.status path true) with
      | .ok status => if status.kind = .regular then pure (some path) else fileIn? name rest
      | .error _ => fileIn? name rest

/-- Does what a file says. -/
def dotCommand (evaluate : Evaluator) (arguments : List (List Char)) : Running Nat := do
  let (_, operands) ← takeOptions "" arguments
  match operands with
  | [] => pure 0
  | name :: _ =>
      let path ←
        if name.contains '/' then
          pure name
        else
          match ← fileIn? name (← searchPath) with
          | some path => pure path
          | none => fault (name ++ chars ": not found")
      let descriptor ← openFile path OpenMode.forReading
      let text ← readAll descriptor Reading.patience []
      let _ ← ask (.close descriptor)
      modify fun store => { store with commandName := some path }
      let status ← evaluateText evaluate text {}
      modify fun store =>
        match store.skip with
        | .returning | .returningAsIs => { store with skip := .none }
        | _ => store
      pure status

/-- Becomes a program; without one nothing is done. -/
def executeCommand (launch : Launch) (arguments : List (List Char)) : Running Nat := do
  if arguments.isEmpty then
    pure 0
  else
    become launch (← searchPath) arguments

/-- Runs a built-in command with the arguments after its name. -/
def runBuiltin (shell : Interpreter) (builtin : Builtin) (arguments : List (List Char))
    (flags : Flags) : Running Nat := do
  match builtin with
  | .colon | .true => pure 0
  | .false => pure 1
  | .dot => dotCommand shell.evaluate arguments
  | .bracket => bracket arguments
  | .alias => aliasCommand arguments
  | .bg | .fg => refuseControl arguments
  | .break => jump .breaking arguments
  | .cd => changeDirectory arguments
  | .command => describeCommand arguments
  | .continue => jump .continuing arguments
  | .echo => echo arguments
  | .eval =>
      evaluateText shell.evaluate ([' '].intercalate arguments) { isTested := flags.isTested }
  | .exec => executeCommand shell.launch arguments
  | .exit => exitCommand arguments
  | .export => exportParameters arguments
  | .getopts => getOption arguments
  | .hash => hashCommand arguments
  | .jobs => jobsCommand arguments
  | .kill => killCommand arguments
  | .local => makeLocal arguments
  | .printf => printf arguments
  | .pwd => writeDirectory arguments
  | .read => readParameters arguments
  | .readonly => protectParameters arguments
  | .return => returnCommand arguments
  | .set => setCommand arguments
  | .shift => shiftArguments arguments
  | .test => test arguments
  | .times => do
      say (chars "0m0.000000s 0m0.000000s\n0m0.000000s 0m0.000000s\n")
      pure 0
  | .trap => trapCommand arguments
  | .type => describeAll arguments
  | .ulimit => limits arguments
  | .umask => fileMask arguments
  | .unalias => unaliasCommand arguments
  | .unset => forget arguments
  | .wait => waitCommand arguments

/-- Calls a built-in command, and writes its output. -/
def callBuiltin (shell : Interpreter) (builtin : Builtin) (arguments : List (List Char))
    (flags : Flags) : Running Nat := do
  let name := arguments.headD []
  let former := (← get).commandName
  modify fun store => { store with commandName := some name }
  let status ←
    try
      runBuiltin shell builtin (arguments.drop 1) flags
    catch stop =>
      let _ ← flush
      modify fun store => { store with commandName := former }
      throw stop
  let isWritten ← flush
  if !isWritten then
    warn (name ++ chars ": I/O error")
  let whole := if isWritten then status else status ||| 1
  modify fun store => { store with commandName := former, status := whole }
  pure whole

/-- Notes the ends of commands in the background, if one is not known to be over. -/
def noteJobs : Running Unit := do
  if (← get).jobs.any fun job => !isFinished job then
    noteEndings Reading.patience

end Running

end Shell

end Cadence
