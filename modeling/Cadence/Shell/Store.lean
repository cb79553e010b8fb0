import Cadence.Host.Image
import Cadence.Shell.Numeral
import Cadence.Shell.Parser
import Cadence.Sum

namespace Cadence

namespace Shell

open Host

/-!
# The state of a shell

What a shell remembers between commands: its parameters and arguments, functions,
aliases and options, the traps it has set, the descriptors it has put aside, and
the children it has started.
-/

/-- A named parameter. -/
structure Parameter where
  value : Option (List Char)
  isExported : Bool := false
  isReadonly : Bool := false
  deriving Repr

/-- What is left out after a command that jumps. -/
inductive Skip
  | none
  | breaking
  | continuing
  /-- The rest of a function or of a text, after a `return` with and without a status. -/
  | returning
  | returningAsIs
  deriving DecidableEq, Repr

/-- A command that runs in the background. -/
structure BackgroundJob where
  number : Nat
  /-- Its processes, with the endings of those that are over. -/
  processes : List (Nat × Option Ending)
  /-- Whether somebody has been told that it is over. -/
  isReported : Bool := false
  deriving Repr

/-- What a function call, or a command with assignments of its own, puts back when it is over. -/
structure LocalFrame where
  parameters : List (List Char × Option Parameter) := []
  options : Option (List Char) := none

/-- How far the options of the arguments have been read. -/
structure OptionCursor where
  /-- The number of the argument that is read next. -/
  index : Nat := 1
  /-- The place within that argument; none if it begins anew. -/
  offset : Option Nat := none
  deriving DecidableEq, Repr

/-- The state of a shell. -/
structure Store where
  parameters : List (List Char × Parameter) := []
  arguments : List (List Char) := []
  /-- The name under which the shell runs. -/
  name : List Char
  functions : List (List Char × Command) := []
  aliases : List (List Char × List Char) := []
  /-- The letters of the options that are on. -/
  options : List Char := []
  documents : Array Word := #[]
  status : Nat := 0
  /-- The status of the last command that was run for its output. -/
  substitutionStatus : Nat := 0
  /-- The status before a trap. -/
  statusBeforeTrap : Option Nat := none
  skip : Skip := .none
  skipCount : Nat := 0
  loops : Nat := 0
  calls : Nat := 0
  /-- How many texts are being evaluated, each within the one before. -/
  texts : Nat := 0
  /-- The actions of the signals that are handled; an empty action ignores the signal.  Number 0
  is the end of the shell. -/
  traps : List (Signal × List Char) := []
  /-- The handled signals that have come. -/
  pendingSignals : List Signal := []
  locals : List LocalFrame := []
  /-- The descriptors that redirections have put aside, with the copies that hold them. -/
  aside : List (List (Nat × Option Nat)) := []
  jobs : List BackgroundJob := []
  lastBackground : Option Nat := none
  /-- The programs that have been found, with their paths. -/
  found : List (List Char × List Char) := []
  process : Nat := 0
  /-- Pieces of output, the last one first. -/
  output : List (List Char) := []
  /-- The current directory, by the path on which it was reached. -/
  directory : Option (List Char) := none
  cursor : OptionCursor := {}
  /-- What messages begin with: the line and the command. -/
  line : Nat := 1
  commandName : Option (List Char) := none

namespace Store

/-- Changes the entry of a key, or adds one. -/
def put {α : Type} (key : List Char) (value : α) :
    List (List Char × α) → List (List Char × α)
  | [] => [(key, value)]
  | (known, other) :: rest =>
      if known = key then (key, value) :: rest else (known, other) :: put key value rest

/-- The named parameter of a name. -/
def parameter? (store : Store) (name : List Char) : Option Parameter :=
  store.parameters.lookup name

/-- The value of a named parameter. -/
def value? (store : Store) (name : List Char) : Option (List Char) :=
  (store.parameter? name).bind Parameter.value

/-- Whether an option is on. -/
def hasOption (store : Store) (option : Char) : Bool :=
  store.options.contains option

/-- Changes a named parameter. -/
def setParameter (store : Store) (name : List Char) (parameter : Parameter) : Store :=
  { store with parameters := put name parameter store.parameters }

/-- Forgets a named parameter. -/
def dropParameter (store : Store) (name : List Char) : Store :=
  { store with parameters := store.parameters.filter fun known => known.1 ≠ name }

/-- The characters that separate fields: those of `IFS`, or the blanks if it is not set. -/
def separators (store : Store) : Option (List Char) :=
  store.value? ['I', 'F', 'S']

/-- The row of a name, when names are spread over 39 rows. -/
def row (name : List Char) : Nat :=
  (sumOf (name.map Char.toNat) + 16 * (name.headD ' ').toNat) % 39

/-- What programs are given besides their arguments: the exported parameters, row by row. -/
def surroundings (store : Store) : Surroundings :=
  let exported := store.parameters.filterMap fun (name, parameter) =>
    if parameter.isExported then parameter.value.map fun value => (name, value) else none
  exported.mergeSort fun first second => row first.1 ≤ row second.1

end Store

/-- Why a shell stops what it is doing. -/
inductive Stop
  /-- The shell has been told to end. -/
  | exit
  /-- A command has failed, and the shell is to end when one does. -/
  | failure
  /-- A command has failed in such a way that the shell ends, unless somebody sees to it. -/
  | fault
  deriving DecidableEq, Repr

/-- A part of what a shell does: it depends on the state, goes on with a state and a value, or
stops with a state. -/
def Running (α : Type) : Type :=
  Store → (Stop → Store → Process) → (α → Store → Process) → Process

namespace Running

@[always_inline, inline]
protected def pure {α : Type} (value : α) : Running α :=
  fun store _ next => next value store

@[always_inline, inline]
protected def bind {α β : Type} (first : Running α) (rest : α → Running β) : Running β :=
  fun store stop next => first store stop fun value store => rest value store stop next

instance : Monad Running where
  pure := Running.pure
  bind := Running.bind

instance : MonadStateOf Store Running where
  get := fun store _ next => next store store
  set := fun store _ _ next => next ⟨⟩ store
  modifyGet := fun change store _ next =>
    let (value, changed) := change store
    next value changed

instance : MonadExceptOf Stop Running where
  throw := fun why store stop _ => stop why store
  tryCatch := fun body handler store stop next =>
    body store (fun why store => handler why store stop next) next

instance : MonadLift Job Running where
  monadLift := fun job store _ next => job fun value => next value store

/-- Asks the host. -/
@[inline]
def ask (request : Request) : Running (Answer request) :=
  fun store _ next => .ask request fun answer => next answer store

/-- A text as a list of its characters. -/
def chars (text : String) : List Char :=
  text.toList

/-- Writes to a descriptor as long as there is something left. -/
def writeAll (descriptor : Nat) : Nat → List Char → Job (Except Errno Unit)
  | 0, _ => pure (.ok ())
  | _, [] => pure (.ok ())
  | fuel + 1, data => do
      match ← Job.ask (.write descriptor data) with
      | .error errno => pure (.error errno)
      | .ok count => writeAll descriptor fuel (data.drop count)

/-- Writes a whole text to a descriptor. -/
def writeText (descriptor : Nat) (text : List Char) : Job (Except Errno Unit) :=
  writeAll descriptor (text.length + 1) text

/-- Adds to the output of the current command. -/
def say (text : List Char) : Running Unit :=
  modify fun store => { store with output := text :: store.output }

/-- Writes the output of the current command; the answer is whether that went well. -/
def flush : Running Bool := do
  let store ← get
  if store.output.isEmpty then
    pure true
  else
    let text := store.output.reverse.flatten
    set { store with output := [] }
    match ← writeText 1 text with
    | .ok () => pure true
    | .error _ => pure false

/-- What messages begin with. -/
def messageStart : Running (List Char) := do
  let store ← get
  let command := store.commandName.elim [] fun name => name ++ chars ": "
  pure (store.name ++ chars ": " ++ Numeral.digits store.line ++ chars ": " ++ command)

/-- Writes a message to the standard error. -/
def warn (text : List Char) : Running Unit := do
  let start ← messageStart
  let _ ← writeText 2 (start ++ text ++ ['\n'])

/-- Fails with a message and a status. -/
def faultWith {α : Type} (status : Nat) (text : List Char) : Running α := do
  warn text
  modify fun store => { store with status := status }
  throw .fault

/-- Fails with a message. -/
def fault {α : Type} (text : List Char) : Running α :=
  faultWith 2 text

/-- Ends the shell. -/
def exit {α : Type} : Running α :=
  throw .exit

/-- Dies of a fault that no action for a signal can handle. -/
def crash {α : Type} (signal : Signal) : Running α := do
  let identity ← ask .identity
  let _ ← ask (.setDisposition signal .default)
  let _ ← ask (.kill identity.process signal)
  exit

/-- The value of a named parameter. -/
def valueOf? (name : List Char) : Running (Option (List Char)) := do
  pure ((← get).value? name)

/-- A number that an argument gives: it is not negative, and has 31 bits. -/
def number (text : List Char) : Running Nat := do
  match Numeral.read? 10 text with
  | some value =>
      if 0 ≤ value && value < 2147483648 then pure value.toNat
      else fault (chars "Illegal number: " ++ text)
  | none => fault (chars "Illegal number: " ++ text)

/-- Does what a change of a parameter brings about. -/
def noteChange (name : List Char) (value : Option (List Char)) : Running Unit := do
  if name = chars "OPTIND" then
    let index ← number (value.getD [])
    modify fun store => { store with cursor := ⟨max index 1, none⟩ }
  if name = chars "PATH" then
    modify fun store => { store with found := [] }

/-- Sets a named parameter. -/
def setValue (name value : List Char) : Running Unit := do
  let former := (← get).parameter? name
  if former.any Parameter.isReadonly then
    fault (name ++ chars ": is read only")
  noteChange name (some value)
  let store ← get
  let parameter := former.getD { value := none }
  let isExported := parameter.isExported || store.hasOption 'a'
  set (store.setParameter name { parameter with value := some value, isExported := isExported })

/-- Sets a parameter whose name may not be fit for one.  The name ends before an equals sign. -/
def setChecked (given value : List Char) : Running Unit := do
  let name := given.takeWhile (· ≠ '=')
  if isName name then
    setValue name value
  else
    fault (name ++ chars ": bad variable name")

/-- Forgets a named parameter. -/
def unsetValue (name : List Char) : Running Unit := do
  let store ← get
  match store.parameter? name with
  | some parameter =>
      if parameter.isReadonly then
        fault (name ++ chars ": is read only")
      else
        set (store.dropParameter name)
        noteChange name none
  | none => pure ()

/-- Marks a named parameter. -/
def markParameter (name : List Char) (mark : Parameter → Parameter) : Running Unit :=
  modify fun store =>
    store.setParameter name (mark ((store.parameter? name).getD { value := none }))

/-- Remembers a parameter, so that it is put back at the end of the innermost frame. -/
def remember (name : List Char) : Running Unit :=
  modify fun store =>
    match store.locals with
    | [] => store
    | frame :: others =>
        let saved := (name, store.parameter? name)
        { store with locals := { frame with parameters := saved :: frame.parameters } :: others }

/-- Puts the parameters of the innermost frame back.  What is not fit for a name is in the way of
the rest. -/
def leaveFrame : Running Unit := do
  let store ← get
  match store.locals with
  | [] => pure ()
  | frame :: others =>
      set { store with locals := others, options := frame.options.getD store.options }
      frame.parameters.forM fun (name, former) => do
        if former.isNone && !isName name then
          fault (name ++ chars ": bad variable name")
        modify fun store =>
          match former with
          | some parameter => store.setParameter name parameter
          | none => store.dropParameter name
        noteChange name (former.bind Parameter.value)

/-- Leaves frames until so many are left. -/
def leaveFrames (depth : Nat) : Nat → Running Unit
  | 0 => pure ()
  | fuel + 1 => do
      if depth < (← get).locals.length then
        leaveFrame
        leaveFrames depth fuel

/-- Puts back the descriptors that the innermost redirections have changed; without restoring them
if these are to last. -/
def restoreDescriptors (areLasting : Bool) : Running Unit := do
  let store ← get
  match store.aside with
  | [] => pure ()
  | saved :: others =>
      set { store with aside := others }
      saved.forM fun (descriptor, copy) => do
        match copy with
        | none =>
            if !areLasting then
              let _ ← ask (.close descriptor)
        | some copy =>
            if !areLasting then
              let _ ← ask (.replace copy descriptor)
            let _ ← ask (.close copy)

/-- Puts descriptors back until so many redirections are left. -/
def restoreAll (depth : Nat) : Nat → Running Unit
  | 0 => pure ()
  | fuel + 1 => do
      if depth < (← get).aside.length then
        restoreDescriptors false
        restoreAll depth fuel

end Running

end Shell

end Cadence
