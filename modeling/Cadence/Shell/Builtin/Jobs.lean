import Cadence.Shell.Builtin.Parameters
import Cadence.Shell.Children

namespace Cadence

namespace Shell

open Host

/-!
# Signals, traps and jobs

The built-in commands that send signals, say what is done when one comes, and
wait for commands in the background.
-/

namespace Running

/-- The name of a signal; number 0 is the end of the shell. -/
def signalName (signal : Signal) : List Char :=
  if signal = 0 then chars "EXIT" else chars (Signal.name signal)

/-- The signal that a text names or numbers.  Names count from `least` on. -/
def signal? (least : Signal) (text : List Char) : Option Signal :=
  if !text.isEmpty && text.all Char.isDigit then
    let number := Numeral.valueOf 10 text
    if number ≤ Signal.last then some number else none
  else
    let name := text.map Char.toUpper
    if least = 0 && name = chars "EXIT" then
      some 0
    else
      Signal.ofName? (String.ofList name)

/-- Says what is done when a signal comes: nothing special without an action.  A signal that was
ignored when the shell started stays ignored. -/
def setTrap (signal : Signal) (action : Option (List Char)) : Running Unit := do
  let former := (← get).traps.lookup signal
  let isFixed ←
    if signal = 0 || former.isSome then
      pure false
    else do
      pure ((← ask (.disposition signal)) = .ignored)
  modify fun store =>
    let others := store.traps.filter fun trap => trap.1 ≠ signal
    { store with
      traps :=
        match action with
        | none => others
        | some action => (signal, action) :: others }
  if signal ≠ 0 && !isFixed then
    let disposition : Disposition :=
      match action with
      | none => .default
      | some [] => .ignored
      | some _ => .caught
    let _ ← ask (.setDisposition signal disposition)

/-- Sets traps for signals; the status is 1 if one of them is none. -/
def setTraps (action : Option (List Char)) : List (List Char) → Running Nat
  | [] => pure 0
  | text :: rest => do
      match signal? 0 text with
      | none =>
          let _ ← writeText 2 (chars "trap: " ++ text ++ chars ": bad trap\n")
          pure 1
      | some signal =>
          setTrap signal action
          setTraps action rest

/-- Shows or sets traps. -/
def trapCommand (arguments : List (List Char)) : Running Nat := do
  let (_, operands) ← takeOptions "" arguments
  let isNumber (text : List Char) : Bool := !text.isEmpty && text.all Char.isDigit
  match operands with
  | [] =>
      let sorted := (← get).traps.mergeSort fun first second => first.1 ≤ second.1
      sorted.forM fun (signal, action) =>
        say (chars "trap -- " ++ quotedText action ++ ' ' :: signalName signal ++ ['\n'])
      pure 0
  | [signal] => setTraps none [signal]
  | action :: signals =>
      if isNumber action then
        setTraps none operands
      else
        setTraps (if action = ['-'] then none else some action) signals

/-- The background job that a text names. -/
def jobOf (text : List Char) : Running BackgroundJob := do
  let jobs := (← get).jobs
  let job? : Option BackgroundJob :=
    match text with
    | ['%'] | ['%', '%'] | ['%', '+'] => jobs.getLast?
    | ['%', '-'] => jobs.dropLast.getLast?
    | '%' :: digits =>
        if !digits.isEmpty && digits.all Char.isDigit then
          jobs.find? fun job => job.number = Numeral.valueOf 10 digits
        else
          none
    | _ => none
  match job? with
  | some job => pure job
  | none =>
      match text with
      | ['%'] | ['%', '%'] | ['%', '+'] => fault (chars "No current job")
      | ['%', '-'] => fault (chars "No previous job")
      | _ => fault (chars "No such job: " ++ text)

/-- Sends a signal to a process or to a job; the answer is whether that was possible. -/
def sendSignal (signal : Signal) (target : List Char) : Running Bool := do
  let process : Int ←
    match target with
    | '%' :: _ => do
        let job ← jobOf target
        pure (-(((job.processes.head?.map Prod.fst).getD 0 : Nat) : Int))
    | '-' :: digits => do pure (-((← number digits : Nat) : Int))
    | digits => do pure ((← number digits : Nat) : Int)
  match ← ask (.kill process signal) with
  | .ok _ => pure true
  | .error errno =>
      warn (errno.text ++ ['\n'])
      pure false

/-- How `kill` is used. -/
def killUsage : List Char :=
  chars ("Usage: kill [-s sigspec | -signum | -sigspec] [pid | job]... or\n" ++
    "kill -l [exitstatus]")

/-- Lists the signals, or names the one of an exit status. -/
def listSignals (operands : List (List Char)) : Running Nat := do
  match operands with
  | [] =>
      say ['0', '\n']
      (List.range Signal.last).forM fun index =>
        say (chars (Signal.name (index + 1)) ++ ['\n'])
      pure 0
  | text :: _ =>
      let status ← number text
      let signal := if 128 < status then status - 128 else status
      if 0 < signal && signal ≤ Signal.last then
        say (chars (Signal.name signal) ++ ['\n'])
        pure 0
      else
        fault (chars "invalid signal number or exit status: " ++ text)

/-- Sends signals, or lists them. -/
def killCommand (arguments : List (List Char)) : Running Nat := do
  let send (signal : Signal) (targets : List (List Char)) : Running Nat := do
    if targets.isEmpty then
      fault killUsage
    let sent ← targets.mapM (sendSignal signal)
    pure (if sent.contains false then 1 else 0)
  match arguments with
  | [] => fault killUsage
  | ('-' :: name) :: rest =>
      match signal? 1 name with
      | some signal => send signal rest
      | none =>
          let (given, operands) ← takeOptions "ls:" arguments
          let signals ← (given.filter fun option => option.letter = 's').mapM fun option =>
            match signal? 1 option.argument with
            | some signal => pure signal
            | none => fault (chars "invalid signal number or name: " ++ option.argument)
          if given.any fun option => option.letter = 'l' then
            if signals.isEmpty then listSignals operands else fault killUsage
          else
            send (signals.getLastD Signal.terminate) operands
  | targets => send Signal.terminate targets

/-- Whether a job has ended. -/
def isFinished (job : BackgroundJob) : Bool :=
  job.processes.all fun known => known.2.isSome

/-- How a job has ended. -/
def endingOf (job : BackgroundJob) : Ending :=
  (job.processes.getLast?.bind Prod.snd).getD (.exited 0)

/-- Notes the children that have ended. -/
def noteEndings : Nat → Running Unit
  | 0 => pure ()
  | fuel + 1 => do
      match ← ask (.wait none (some 0) false) with
      | .ended child ending =>
          noteEnding child ending
          noteEndings fuel
      | _ => pure ()

/-- Waits until a job has ended, or all; the answer is a signal that came before. -/
def awaitJobs (number : Option Nat) : Nat → Running (Option Signal)
  | 0 => pure none
  | fuel + 1 => do
      let jobs := (← get).jobs.filter fun job => number.all (· = job.number)
      if jobs.all isFinished then
        pure none
      else
        match ← ask (.wait none none true) with
        | .ended child ending =>
            noteEnding child ending
            awaitJobs number fuel
        | .interrupted =>
            let signals ← ask .signals
            modify fun store =>
              { store with pendingSignals := store.pendingSignals ++ signals }
            pure (some (signals.getLastD 0))
        | _ => pure none

/-- Marks a job as reported. -/
def reportJob (number : Nat) : Running Unit :=
  modify fun store =>
    { store with
      jobs := store.jobs.map fun job =>
        if job.number = number then { job with isReported := true } else job }

/-- Waits for jobs, one after the other; the status is that of the last one. -/
def awaitEach : Nat → List (List Char) → Running Nat
  | status, [] => pure status
  | status, text :: rest => do
      let job? : Option BackgroundJob ←
        match text with
        | '%' :: _ => do pure (some (← jobOf text))
        | _ => do
            let process ← number text
            pure ((← get).jobs.find? fun job =>
              (job.processes.getLast?.map Prod.fst) = some process)
      match job? with
      | none => awaitEach status rest
      | some job =>
          let wasFinished := isFinished job
          match ← awaitJobs (some job.number) Reading.patience with
          | some signal => pure (128 + signal)
          | none =>
              reportJob job.number
              let ended := (← get).jobs.find? fun known => known.number = job.number
              let ending := (ended.map endingOf).getD (.exited 0)
              if !wasFinished then
                reportEnding ending
              awaitEach ending.status rest

/-- Waits for commands in the background. -/
def waitCommand (arguments : List (List Char)) : Running Nat := do
  let (_, operands) ← takeOptions "" arguments
  if operands.isEmpty then
    match ← awaitJobs none Reading.patience with
    | some signal => pure (128 + signal)
    | none =>
        modify fun store =>
          { store with jobs := store.jobs.map fun job => { job with isReported := true } }
        pure 0
  else
    awaitEach 127 operands

/-- How the state of a job is shown. -/
def jobState (job : BackgroundJob) : List Char :=
  if !isFinished job then
    chars "Running"
  else
    match endingOf job with
    | .exited 0 => chars "Done"
    | .exited status => chars "Done(" ++ Numeral.digits status ++ [')']
    | .killed signal => chars ((signalMessage? signal).getD (Signal.name signal))

/-- Shows the jobs; those that have ended are forgotten then. -/
def jobsCommand (arguments : List (List Char)) : Running Nat := do
  let (given, operands) ← takeOptions "lp" arguments
  noteEndings Reading.patience
  let isShort := given.any fun option => option.letter = 'p'
  let isLong := given.any fun option => option.letter = 'l'
  let all := (← get).jobs
  let shown ← if operands.isEmpty then pure all.reverse else operands.mapM jobOf
  shown.forM fun job => do
    let leader := Numeral.digits ((job.processes.head?.map Prod.fst).getD 0)
    if isShort then
      say (leader ++ ['\n'])
    else
      let sign :=
        if all.getLast?.any fun last => last.number = job.number then '+'
        else if all.dropLast.getLast?.any fun last => last.number = job.number then '-'
        else ' '
      let front := '[' :: Numeral.digits job.number ++ [']', ' ', sign, ' ']
      let text := front ++ (if isLong then leader ++ [' '] else []) ++ jobState job
      let others := (job.processes.drop 1).flatMap fun _ => chars " | "
      let blanks := List.replicate (max 1 (33 - text.length)) ' '
      say (text ++ blanks ++ others ++ ['\n'])
      if isFinished job then
        modify fun store =>
          { store with jobs := store.jobs.filter fun known => known.number ≠ job.number }
  pure 0

/-- Fails, because no job is controlled by the shell. -/
def refuseControl (arguments : List (List Char)) : Running Nat := do
  let (_, operands) ← takeOptions "" arguments
  let text := operands.headD (chars "%%")
  let job ← jobOf text
  fault (chars "job %" ++ Numeral.digits job.number ++ chars " not created under job control")

/-- Records a command in the background.  The place of a job that has been reported is taken
again. -/
def recordJob (processes : List Nat) : Running Unit :=
  modify fun store =>
    let numbers := List.range (store.jobs.length + 1)
    let isFree (number : Nat) : Bool :=
      match store.jobs.find? fun job => job.number = number + 1 with
      | none => true
      | some job => isFinished job && job.isReported
    let number := ((numbers.find? isFree).getD store.jobs.length) + 1
    let others := store.jobs.filter fun job => job.number ≠ number
    { store with
      jobs := others ++
        [{ number := number, processes := processes.map fun process => (process, none) }]
      lastBackground := processes.getLast? }

/-- Forgets the first job that has been reported, when the place of a job is needed. -/
def reusePlace : Running Unit :=
  modify fun store =>
    let numbers := List.range store.jobs.length
    let isFree (number : Nat) : Bool :=
      match store.jobs.find? fun job => job.number = number + 1 with
      | none => true
      | some job => isFinished job && job.isReported
    match numbers.find? isFree with
    | none => store
    | some number =>
        { store with jobs := store.jobs.filter fun job => job.number ≠ number + 1 }

end Running

end Shell

end Cadence
