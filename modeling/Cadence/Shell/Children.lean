import Cadence.Shell.Field
import Cadence.Shell.Store

namespace Cadence

namespace Shell

open Host

/-!
# Children of a shell

Parts of a script run in copies of the shell: subshells, the commands of a
pipeline, commands in the background and those that are run for their output.  A
copy has its own state from then on, and its traps are reset.
-/

/-- How a command is run. -/
structure Flags where
  /-- Whether its failure is looked at, so that it does not end the shell. -/
  isTested : Bool := false
  /-- Whether the shell ends after it. -/
  isLast : Bool := false
  deriving DecidableEq, Repr

/-- What a shell can be asked to do. -/
inductive Task
  | command (command : Command) (flags : Flags)
  /-- Another round of a loop, after one with a status. -/
  | round (isUntil : Bool) (test body : Command) (flags : Flags) (status : Nat)
  /-- The lines of a text, after some with a status. -/
  | lines (reader : Reader) (flags : Flags) (status : Nat)

/-- How tasks are done; the answer is a status. -/
abbrev Evaluator := Task → Running Nat

namespace Running

/-- Asks for the handled signals that have come. -/
def noteSignals : Running Unit := do
  let signals ← ask .signals
  if !signals.isEmpty then
    modify fun store => { store with pendingSignals := store.pendingSignals ++ signals }

/-- How deeply texts may be evaluated within texts.  There is no room for more: a shell that goes on
for ever has an end. -/
def deepestText : Nat := 8000

/-- Does what a text says. -/
def evaluateText (evaluate : Evaluator) (text : List Char) (flags : Flags) : Running Nat := do
  let store ← get
  if deepestText ≤ store.texts then
    crash Signal.badAddress
  noteSignals
  set { ← get with texts := store.texts + 1 }
  let leave : Running Unit := modify fun later => { later with texts := store.texts }
  try
    let status ← evaluate (.lines (Reading.ofText text store.aliases store.documents) flags 0)
    leave
    pure status
  catch stop =>
    leave
    throw stop

/-- Ends the shell: the action for its end is taken, and decides the status if it ends the shell
itself. -/
def conclude (evaluate : Evaluator) : Running Nat := do
  let store ← get
  match store.traps.lookup 0 with
  | none => pure store.status
  | some action =>
      set { store with
            traps := store.traps.filter fun trap => trap.1 ≠ 0
            skip := .none
            statusBeforeTrap := some store.status }
      try
        let _ ← evaluateText evaluate action {}
        pure store.status
      catch _ =>
        pure (← get).status

/-- Leaves everything that a shell has begun and that stops with it; the frames stay, so that the
action for the end of the shell still sees the parameters of functions. -/
def leaveAll : Running Unit := do
  let store ← get
  restoreAll 0 store.aside.length
  modify fun store => { store with loops := 0, skip := .none, commandName := none }

/-- The process of a shell that does something and ends. -/
def process (evaluate : Evaluator) (body : Running Nat) (store : Store) : Process :=
  let whole : Running Nat := do
    try
      let _ ← body
    catch _ =>
      leaveAll
    conclude evaluate
  whole store (fun _ store => .exit (store.status % 256)) (fun status _ => .exit (status % 256))

/-- The kinds of copies of a shell. -/
inductive CopyKind
  | foreground
  /-- Runs in the background; only a pipeline reads what the shell reads. -/
  | background (readsInput : Bool)
  deriving DecidableEq, Repr

/-- Makes a copy of a shell its own: traps are reset, and jobs forgotten, and its descriptors stay
what they are. -/
def becomeCopy (kind : CopyKind) : Running Unit := do
  let store ← get
  let (handled, ignored) := store.traps.partition fun trap => !trap.2.isEmpty
  set { store with
        traps := ignored
        jobs := []
        pendingSignals := []
        output := []
        aside := [] }
  handled.forM fun trap => do
    if trap.1 ≠ 0 then
      let _ ← ask (.setDisposition trap.1 .default)
  match kind with
  | .foreground => pure ()
  | .background readsInput =>
      let _ ← ask (.setDisposition Signal.interrupt .ignored)
      let _ ← ask (.setDisposition Signal.quit .ignored)
      if !readsInput then
        let _ ← ask (.close 0)
        let _ ← ask (.openFile (chars "/dev/null") OpenMode.forReading 0)

/-- Starts a copy of the shell; the answer is its number. -/
def startCopy (evaluate : Evaluator) (kind : CopyKind) (body : Running Nat) : Running Nat :=
  fun store _ next =>
    .fork
      (fun _ =>
        process evaluate
          (do
            becomeCopy kind
            body)
          store)
      (fun number => next number store)

/-- Records the ending of a child in the jobs. -/
def noteEnding (number : Nat) (ending : Ending) : Running Unit :=
  modify fun store =>
    { store with
      jobs := store.jobs.map fun job =>
        { job with
          processes := job.processes.map fun known =>
            if known.1 = number && known.2.isNone then (number, some ending) else known } }

/-- What is written when a command that was waited for was ended by a signal. -/
def signalMessage? (signal : Signal) : Option String :=
  match signal with
  | 1 => some "Hangup"
  | 3 => some "Quit"
  | 4 => some "Illegal instruction"
  | 5 => some "Trace/breakpoint trap"
  | 6 => some "Aborted"
  | 7 => some "Bus error"
  | 8 => some "Floating point exception"
  | 9 => some "Killed"
  | 10 => some "User defined signal 1"
  | 11 => some "Segmentation fault"
  | 12 => some "User defined signal 2"
  | 14 => some "Alarm clock"
  | 15 => some "Terminated"
  | 24 => some "CPU time limit exceeded"
  | 25 => some "File size limit exceeded"
  | 26 => some "Virtual timer expired"
  | 27 => some "Profiling timer expired"
  | 29 => some "I/O possible"
  | 30 => some "Power failure"
  | 31 => some "Bad system call"
  | _ => none

/-- Says how a command has ended, if a signal has ended it. -/
def reportEnding (ending : Ending) : Running Unit := do
  match ending with
  | .exited _ => pure ()
  | .killed signal =>
      match signalMessage? signal with
      | none => pure ()
      | some message =>
          let _ ← writeText 2 (chars message ++ ['\n'])

/-- Waits until the last of some children has ended, and the others too. -/
def waitForEndings (last : Nat) : Nat → List Nat → Option Ending → Running Ending
  | 0, _, ending => pure (ending.getD (.exited 0))
  | _, [], ending => pure (ending.getD (.exited 0))
  | fuel + 1, waiting, ending => do
      match ← ask (.wait none none false) with
      | .ended child how =>
          if waiting.contains child then
            let ending := if child = last then some how else ending
            waitForEndings last fuel (waiting.filter (· ≠ child)) ending
          else
            noteEnding child how
            waitForEndings last fuel waiting ending
      | .noChildren => pure (ending.getD (.exited 127))
      | .interrupted | .timedOut => waitForEndings last fuel waiting ending

/-- Waits for the children of a command; the answer is the status of the last one. -/
def waitForAll (children : List Nat) : Running Nat := do
  let ending ← waitForEndings (children.getLast?.getD 0) Reading.patience children none
  reportEnding ending
  pure ending.status

/-- Reads a descriptor to its end. -/
def readAll (descriptor : Nat) : Nat → List (List Char) → Job (List Char)
  | 0, pieces => pure pieces.reverse.flatten
  | fuel + 1, pieces => do
      match ← Job.ask (.read descriptor 65536 false) with
      | .error _ => pure pieces.reverse.flatten
      | .ok [] => pure pieces.reverse.flatten
      | .ok piece => readAll descriptor fuel (piece :: pieces)

/-- The output of a command that is run in a copy of the shell, without the newlines at its end. -/
def outputOf (evaluate : Evaluator) (command : Command) : Running (List Char) := do
  match ← ask .pipe with
  | .error _ => fault (chars "Pipe call failed")
  | .ok (reader, writer) =>
      let child ← startCopy evaluate .foreground do
        let _ ← ask (.close reader)
        if writer ≠ 1 then
          let _ ← ask (.replace writer 1)
          let _ ← ask (.close writer)
        evaluate (.command command { isLast := true })
      let _ ← ask (.close writer)
      let text ← readAll reader Reading.patience []
      let _ ← ask (.close reader)
      let status ← waitForAll [child]
      modify fun store => { store with substitutionStatus := status }
      let kept := text.filter (· ≠ Char.ofNat 0)
      pure ((kept.reverse.dropWhile (· = '\n')).reverse)

end Running

end Shell

end Cadence
