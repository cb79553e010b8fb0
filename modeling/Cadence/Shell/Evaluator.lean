import Cadence.Shell.Simple

namespace Cadence

namespace Shell

open Host

/-!
# Running commands

One step of what a shell does, in terms of how it does everything else.  The
status of a command is recorded when the command is over; then the actions of
signals are taken, and the shell ends if the command was the last one or has
failed where no failure is allowed.
-/

namespace Running

/-- Ends a command with a status.  If that `matters`, a failure can end the shell. -/
def settle (shell : Interpreter) (flags : Flags) (matters : Bool) (status : Nat) :
    Running Nat := do
  modify fun store => { store with status := status }
  takeTraps shell.evaluate
  if matters && !flags.isTested && status ≠ 0 && (← get).hasOption 'e' then
    throw .failure
  if flags.isLast then
    throw .failure
  pure status

/-- Ends a command that does not record a status of its own. -/
def leave (shell : Interpreter) (flags : Flags) (status : Nat) : Running Nat := do
  takeTraps shell.evaluate
  if flags.isLast then
    throw .failure
  pure status

/-- What a jump means for the innermost loop, which it leaves or repeats. -/
def takeJump : Running Skip := do
  let store ← get
  match store.skip with
  | .breaking | .continuing =>
      if store.skipCount ≤ 1 then
        set { store with skip := .none, skipCount := 0 }
        pure store.skip
      else
        set { store with skipCount := store.skipCount - 1 }
        pure .breaking
  | skip => pure skip

/-- Runs the body of a loop for each of some values, after a round with a status. -/
def rounds (shell : Interpreter) (name : List Char) (body : Command) (flags : Flags) :
    Nat → List (List Char) → Running Nat
  | status, [] => pure status
  | _, value :: rest => do
      setValue name value
      let status ← shell.evaluate (.command body flags)
      match ← takeJump with
      | .none | .continuing => rounds shell name body flags status rest
      | _ => pure status

/-- Runs another round of a loop. -/
def round (shell : Interpreter) (isUntil : Bool) (test body : Command) (flags : Flags)
    (status : Nat) : Running Nat := do
  let tested ← shell.evaluate (.command test { isTested := true })
  match ← takeJump with
  | .returning => pure tested
  | .returningAsIs | .breaking => pure status
  | .continuing => shell.evaluate (.round isUntil test body flags status)
  | .none =>
      if (tested == 0) = isUntil then
        pure status
      else
        let status ← shell.evaluate (.command body flags)
        match ← takeJump with
        | .none | .continuing => shell.evaluate (.round isUntil test body flags status)
        | _ => pure status

/-- Whether a text matches one of some patterns. -/
def matchesOne (evaluate : Evaluator) (text : List Char) : List Word → Running Bool
  | [] => pure false
  | pattern :: rest => do
      if ← matchesWord evaluate pattern text then
        pure true
      else
        matchesOne evaluate text rest

/-- The branch that a text chooses. -/
def branchOf? (evaluate : Evaluator) (text : List Char) :
    List (List Word × Option Command) → Running (Option Command)
  | [] => pure none
  | (patterns, body) :: rest => do
      if ← matchesOne evaluate text patterns then
        pure body
      else
        branchOf? evaluate text rest

/-- Starts the commands of a pipeline, of which the first one reads what `input` leads to.  The
answer has their numbers. -/
def startPipeline (shell : Interpreter) (inBackground : Bool) (flags : Flags) :
    Option Nat → List Command → Running (List Nat)
  | _, [] => pure []
  | input, command :: rest => do
      let output : Option (Nat × Nat) ←
        if rest.isEmpty then
          pure none
        else
          match ← ask .pipe with
          | .ok ends => pure (some ends)
          | .error _ => do
              if let some input := input then
                let _ ← ask (.close input)
              fault (chars "Pipe call failed")
      let kind : CopyKind := if inBackground then .background input.isSome else .foreground
      let child ← startCopy shell.evaluate kind do
        if let some (reader, _) := output then
          let _ ← ask (.close reader)
        if let some input := input then
          if input ≠ 0 then
            let _ ← ask (.replace input 0)
            let _ ← ask (.close input)
        if let some (_, writer) := output then
          if writer ≠ 1 then
            let _ ← ask (.replace writer 1)
            let _ ← ask (.close writer)
        shell.evaluate (.command command { flags with isLast := true })
      if let some input := input then
        let _ ← ask (.close input)
      if let some (_, writer) := output then
        let _ ← ask (.close writer)
      pure (child :: (← startPipeline shell inBackground flags (output.map Prod.fst) rest))

/-- Runs a command in a copy of the shell, in which it may be the shell itself if that ends then. -/
def subshell (shell : Interpreter) (body : Command) (redirections : List Redirection)
    (flags : Flags) : Running Nat := do
  let redirected ← expandRedirections shell.evaluate redirections
  let inside : Running Nat := do
    redirect shell.evaluate redirected
    shell.evaluate (.command body { flags with isLast := true })
  if flags.isLast && !(← hasTraps) then
    becomeCopy .foreground
    inside
  else
    waitForAll [← startCopy shell.evaluate .foreground inside]

/-- Starts a command in the background. -/
def background (shell : Interpreter) (body : Command) (redirections : List Redirection) :
    Running Nat := do
  let redirected ← expandRedirections shell.evaluate redirections
  reusePlace
  let child ← startCopy shell.evaluate (.background false) do
    redirect shell.evaluate redirected
    shell.evaluate (.command body { isLast := true })
  recordJob [child]
  pure 0

/-- Runs a command. -/
def command (shell : Interpreter) (command : Command) (flags : Flags) : Running Nat := do
  let inner : Flags := { isTested := flags.isTested }
  if (← get).hasOption 'n' then
    leave shell flags 0
  else
    match command with
    | .simple line assignments words redirections => do
        modify fun store => { store with line := line }
        let status ← simple shell assignments words redirections flags
        noteSignals
        settle shell flags true status
    | .pipeline commands inBackground => do
        reusePlace
        let children ← startPipeline shell inBackground flags none commands
        let status ←
          if inBackground then do
            recordJob children
            pure 0
          else
            waitForAll children
        noteSignals
        settle shell flags true status
    | .redirected body redirections => do
        let depth := (← get).aside.length
        let isRedirected ← redirectAside shell.evaluate redirections
        let status ←
          if isRedirected then shell.evaluate (.command body inner) else pure 2
        restoreAll depth (← get).aside.length
        settle shell flags (!isRedirected) status
    | .background body redirections => do
        settle shell flags true (← background shell body redirections)
    | .subshell body redirections => do
        let status ← subshell shell body redirections flags
        noteSignals
        settle shell flags true status
    | .sequence first second => do
        let status ← shell.evaluate (.command first inner)
        if (← get).skip ≠ .none then
          leave shell flags status
        else
          shell.evaluate (.command second flags)
    | .both first second => do
        let status ← shell.evaluate (.command first { isTested := true })
        if status ≠ 0 || (← get).skip ≠ .none then
          leave shell flags status
        else
          shell.evaluate (.command second flags)
    | .either first second => do
        let status ← shell.evaluate (.command first { isTested := true })
        if status = 0 || (← get).skip ≠ .none then
          leave shell flags status
        else
          shell.evaluate (.command second flags)
    | .not body => do
        let status ← shell.evaluate (.command body { isTested := true })
        if (← get).skip ≠ .none then
          settle shell flags false status
        else
          settle shell flags false (if status = 0 then 1 else 0)
    | .condition test consequence alternative => do
        let status ← shell.evaluate (.command test { isTested := true })
        if (← get).skip ≠ .none then
          leave shell flags status
        else if status = 0 then
          shell.evaluate (.command consequence flags)
        else
          match alternative with
          | some alternative => shell.evaluate (.command alternative flags)
          | none => settle shell flags false 0
    | .loop isUntil test body => do
        modify fun store => { store with loops := store.loops + 1 }
        let status ← shell.evaluate (.round isUntil test body inner 0)
        modify fun store => { store with loops := store.loops - 1 }
        settle shell flags false status
    | .forEach name words body => do
        let values ← allFields shell.evaluate words
        modify fun store => { store with loops := store.loops + 1 }
        let status ← rounds shell name body inner 0 values
        modify fun store => { store with loops := store.loops - 1 }
        settle shell flags false status
    | .choice subject branches => do
        let text ← textOf shell.evaluate subject
        match ← branchOf? shell.evaluate text branches with
        | none => settle shell flags false 0
        | some body => shell.evaluate (.command body flags)
    | .function name body => do
        modify fun store => { store with functions := Store.put name body store.functions }
        settle shell flags false 0

/-- Does what the lines of a text say, after some with a status. -/
def lines (shell : Interpreter) (reader : Reader) (flags : Flags) (status : Nat) :
    Running Nat := do
  let store ← get
  let current : Reader :=
    { reader with aliases := store.aliases, documents := store.documents }
  match current.line? with
  | .error reason => do
      modify fun store => { store with line := reason.line }
      fault (chars "Syntax error: " ++ chars reason.message)
  | .ok (read, rest) => do
      set { store with documents := rest.documents, line := reader.line }
      match read with
      | none => pure status
      | some ⟨none, _⟩ => shell.evaluate (.lines rest flags status)
      | some ⟨some command, isLast⟩ => do
          let status ←
            shell.evaluate (.command command { flags with isLast := flags.isLast && isLast })
          if (← get).skip ≠ .none then
            pure status
          else
            shell.evaluate (.lines rest flags status)

/-- Does a task. -/
def perform (shell : Interpreter) : Task → Running Nat
  | .command whole flags => command shell whole flags
  | .round isUntil test body flags status => round shell isUntil test body flags status
  | .lines reader flags status => lines shell reader flags status

end Running

end Shell

end Cadence
