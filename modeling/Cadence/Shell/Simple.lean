import Cadence.Shell.Invoked

namespace Cadence

namespace Shell

open Host

/-!
# Simple commands

A simple command assigns parameters, redirects descriptors and calls what its
first field names.  The words after it are expanded when it is known whether they
may be assignments.
-/

/-- What the first field of a simple command stands for. -/
inductive Meaning
  | nothing
  | function (body : Command)
  | builtin (builtin : Builtin)
  | program

/-- A simple command whose name is known. -/
structure Resolved where
  meaning : Meaning
  /-- All fields that have been expanded, and those from the name on. -/
  fields : List (List Char)
  called : List (List Char)
  /-- The words that have not been expanded. -/
  words : List Word
  /-- Whether errors in the command end the shell. -/
  isSpecial : Bool := false
  /-- Whether the operands that are assignments are not split. -/
  takesAssignments : Bool := false
  /-- Whether programs are looked for on the standard path. -/
  isStandard : Bool := false

namespace Running

/-- Expands words until there is a field; the answer has the fields and the other words. -/
def firstFields (evaluate : Evaluator) : List Word → Running (List (List Char) × List Word)
  | [] => pure ([], [])
  | word :: rest => do
      match ← fieldsOf evaluate word with
      | [] => firstFields evaluate rest
      | fields => pure (fields, rest)

/-- The operands of `command`, from which another command is called. -/
structure Operands where
  /-- The fields that have been passed, in reverse. -/
  passed : List (List Char)
  fields : List (List Char)
  words : List Word
  isStandard : Bool
  /-- Whether a command is called; if not, `command` itself has something to do. -/
  isCall : Bool

/-- Passes the options of `command`.  The first argument bounds their number. -/
def passOptions (evaluate : Evaluator) :
    Nat → List (List Char) → List (List Char) → List Word → Bool → Running Operands
  | 0, passed, fields, words, isStandard => pure ⟨passed, fields, words, isStandard, false⟩
  | fuel + 1, passed, fields, words, isStandard => do
      let (fields, words) ←
        if fields.isEmpty then firstFields evaluate words else pure (fields, words)
      match fields with
      | [] => pure ⟨passed, [], words, isStandard, false⟩
      | ['-', '-'] :: rest => do
          let (rest, words) ←
            if rest.isEmpty then firstFields evaluate words else pure (rest, words)
          pure ⟨['-', '-'] :: passed, rest, words, isStandard, !rest.isEmpty⟩
      | ('-' :: c :: letters) :: rest =>
          if (c :: letters).all (· = 'p') then
            passOptions evaluate fuel (('-' :: c :: letters) :: passed) rest words true
          else
            pure ⟨passed, fields, words, isStandard, false⟩
      | fields => pure ⟨passed, fields, words, isStandard, true⟩

/-- What a name stands for. -/
def meaningOf (name : List Char) (mayBeFunction : Bool) : Running Meaning := do
  if name.contains '/' then
    pure .program
  else
    let store ← get
    match if mayBeFunction then store.functions.lookup name else none with
    | some body => pure (.function body)
    | none =>
        match Builtin.ofName? name with
        | some builtin => pure (.builtin builtin)
        | none => pure .program

/-- Finds out what fields call, through the built-in `command`.  The numbers bound how often, and
how many options there are. -/
def resolveFrom (evaluate : Evaluator) (options : Nat) (first : Option Builtin) :
    Nat → List (List Char) → List (List Char) → List Word → Bool → Running Resolved
  | 0, passed, fields, words, isStandard =>
      pure
        { meaning := .program, fields := passed.reverse ++ fields, called := fields
          words := words, isStandard := isStandard }
  | fuel + 1, passed, fields, words, isStandard => do
      let meaning ← meaningOf (fields.headD []) first.isNone
      let resolved : Resolved :=
        { meaning := meaning, fields := passed.reverse ++ fields, called := fields
          words := words, isStandard := isStandard
          isSpecial := first.any Builtin.isSpecial
          takesAssignments := first.any Builtin.takesAssignments }
      match meaning with
      | .builtin builtin =>
          let leading := first.getD builtin
          let known : Resolved :=
            { resolved with
              isSpecial := leading.isSpecial, takesAssignments := builtin.takesAssignments }
          if builtin ≠ .command then
            pure known
          else
            let passedToo := fields.take 1
            let operands ← passOptions evaluate options [] (fields.drop 1) words isStandard
            let all := passed.reverse ++ passedToo ++ operands.passed.reverse ++ operands.fields
            if operands.isCall then
              resolveFrom evaluate options (some leading) fuel
                (operands.passed ++ passedToo ++ passed) operands.fields operands.words
                operands.isStandard
            else
              pure
                { known with
                  fields := all
                  called := passedToo ++ operands.passed.reverse ++ operands.fields
                  words := operands.words }
      | _ => pure resolved

/-- Finds out what words call, and expands them. -/
def resolve (evaluate : Evaluator) (words : List Word) : Running Resolved := do
  let (fields, others) ← firstFields evaluate words
  if fields.isEmpty then
    pure { meaning := .nothing, fields := [], called := [], words := [] }
  else
    let resolved ←
      resolveFrom evaluate Reading.patience none Reading.patience [] fields others false
    let rest ← resolved.words.mapM fun word =>
      if resolved.takesAssignments && (Word.assigned? word).isSome then do
        pure [← assignmentText evaluate word]
      else
        fieldsOf evaluate word
    let rest := rest.flatten
    pure
      { resolved with
        fields := resolved.fields ++ rest, called := resolved.called ++ rest, words := [] }

/-- Assigns a parameter as a word says; the answer is the text of the assignment. -/
def assign (evaluate : Evaluator) (isLocal isExported : Bool) (word : Word) :
    Running (List Char) := do
  let text ← assignmentText evaluate word
  let name := ((Word.assigned? word).getD [])
  if isLocal then
    remember name
  setValue name (text.drop (name.length + 1))
  if isLocal || isExported then
    markParameter name fun parameter => { parameter with isExported := true }
  pure text

/-- Shows a command before it is run, if that is wanted.  What its own redirections have done to the
standard error does not matter. -/
def trace (evaluate : Evaluator) (isRedirected : Bool) (texts : List (List Char)) :
    Running Unit := do
  let store ← get
  if store.hasOption 'x' then
    set { store with options := store.options.filter (· ≠ 'x') }
    let start ←
      match documentWord? ((store.value? (chars "PS4")).getD []) with
      | none => pure []
      | some word => documentText evaluate word
    modify fun later => { later with options := store.options }
    let copy :=
      if isRedirected then (store.aside.head?.bind fun saved => saved.lookup 2).join else none
    let _ ← writeText (copy.getD 2) (start ++ [' '].intercalate texts ++ ['\n'])

/-- Calls what has been resolved.  The answer is none if a program has not been found. -/
def call (shell : Interpreter) (resolved : Resolved) (flags : Flags) : Running (Option Nat) := do
  match resolved.meaning with
  | .nothing => do
      modify fun store => { store with status := store.substitutionStatus }
      pure (some (← get).status)
  | .builtin builtin =>
      try
        some <$> callBuiltin shell builtin resolved.called flags
      catch stop =>
        if stop = .fault && !resolved.isSpecial then
          pure (some (← get).status)
        else
          throw stop
  | .function body => some <$> callFunction shell.evaluate body resolved.called flags
  | .program => do
      let directories ← if resolved.isStandard then pure standardPath else searchPath
      match ← locateProgram (resolved.called.headD []) directories with
      | .program _ => some <$> callProgram shell directories resolved.called flags
      | sought =>
          let reason := if sought = .refused then Errno.accessDenied.text else chars "not found"
          warn (resolved.called.headD [] ++ chars ": " ++ reason)
          pure none

/-- Runs a simple command. -/
def simple (shell : Interpreter) (assignments words : List Word)
    (redirections : List Redirection) (flags : Flags) : Running Nat := do
  modify fun store => { store with substitutionStatus := 0 }
  let resolved ← resolve shell.evaluate words
  let (isLocal, isExec) : Bool × Bool :=
    match resolved.meaning with
    | .nothing => (false, false)
    | .builtin builtin => (!resolved.isSpecial, builtin = .exec)
    | _ => (true, false)
  let before ← get
  if isLocal then
    modify fun store => { store with locals := {} :: store.locals }
  let isRedirected ←
    if redirections.isEmpty then pure true else redirectAside shell.evaluate redirections
  let status? ←
    if isRedirected then do
      let isExported := isExec && 1 < resolved.called.length
      let assigned ← assignments.mapM (assign shell.evaluate isLocal isExported)
      trace shell.evaluate (!redirections.isEmpty) (assigned ++ resolved.fields)
      match ← call shell resolved flags with
      | some status => pure (some status)
      | none => do
          modify fun store => { store with status := 127 }
          pure none
    else
      pure none
  if status?.isNone && resolved.isSpecial then
    throw .fault
  let status := (← get).status
  if !redirections.isEmpty then
    restoreAll (before.aside.length + 1) (← get).aside.length
    restoreDescriptors (isExec && isRedirected)
  restoreAll before.aside.length (← get).aside.length
  leaveFrames before.locals.length (← get).locals.length
  match resolved.meaning with
  | .nothing | .builtin _ | .function _ => noteJobs
  | .program => pure ()
  pure (status?.getD status)

end Running

end Shell

end Cadence
