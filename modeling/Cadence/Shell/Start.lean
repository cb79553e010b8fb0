import Cadence.Shell.Evaluator

namespace Cadence

namespace Shell

open Host

/-!
# Starting a shell

A shell is a program: its arguments say where its commands are found and what its
options and arguments are, and its surroundings become its first parameters.
-/

/-- The arguments of a shell that have been read. -/
structure ShellArguments where
  /-- Whether the first operand is the text of the commands. -/
  isText : Bool := false
  operands : List (List Char) := []

namespace Running

/-- The search path of a shell whose surroundings have none. -/
def defaultPath : List Char :=
  chars "/usr/local/sbin:/usr/local/bin:/usr/sbin:/usr/bin:/sbin:/bin"

/-- The path of the current directory: the one that the surroundings tell, if it leads there. -/
def startDirectory (told : Option (List Char)) : Running (List Char) := do
  match told with
  | some ('/' :: rest) =>
      match ← ask (.status ('/' :: rest) true), ← ask (.status ['.'] true) with
      | .ok told, .ok here =>
          if told.serial = here.serial then pure ('/' :: rest) else physicalDirectory
      | _, _ => physicalDirectory
  | _ => physicalDirectory

/-- Sets the first parameters. -/
def takeSurroundings (surroundings : Surroundings) : Running Unit := do
  let identity ← ask .identity
  let exported := surroundings.filter fun entry => isName entry.1
  let own : List (String × List Char) :=
    [("IFS", [' ', '\t', '\n']), ("OPTIND", ['1']), ("PPID", Numeral.digits identity.parent),
      ("PS1", ['#', ' ']), ("PS2", ['>', ' ']), ("PS4", ['+', ' '])]
  modify fun store =>
    let known := Store.put (chars "PATH") { value := some defaultPath } []
    let given := exported.foldl
      (fun parameters entry =>
        Store.put entry.1 { value := some entry.2, isExported := true } parameters)
      known
    let fixed := own.filter fun entry =>
      entry.1 = "IFS" || entry.1 = "OPTIND" || entry.1 = "PPID" ||
        (given.lookup entry.1.toList).isNone
    { store with
      process := identity.process
      parameters := fixed.foldl
        (fun parameters entry =>
          Store.put entry.1.toList { value := some entry.2 } parameters)
        given }
  setDirectory (← startDirectory (← valueOf? (chars "PWD"))) none

/-- Reads the letters of an argument; the answer says whether the text of the commands follows, and
has the other arguments. -/
def startLetters (isOn : Bool) :
    List Char → List (List Char) → Bool → Running (Bool × List (List Char))
  | [], rest, isText => pure (isText, rest)
  | letter :: letters, rest, isText => do
      match letter with
      | 'c' => startLetters isOn letters rest true
      | 'l' => startLetters isOn letters rest isText
      | 'o' =>
          match rest with
          | [] =>
              showOptions (!isOn)
              startLetters isOn letters [] isText
          | name :: rest =>
              setNamedOption name isOn
              startLetters isOn letters rest isText
      | letter =>
          setOption letter isOn
          startLetters isOn letters rest isText

/-- Reads the options of a shell.  The first argument bounds their number. -/
def startOptions : Nat → Bool → List (List Char) → Running ShellArguments
  | 0, isText, rest => pure ⟨isText, rest⟩
  | fuel + 1, isText, arguments => do
      match arguments with
      | ['-'] :: rest | ['-', '-'] :: rest => pure ⟨isText, rest⟩
      | ('-' :: letters) :: rest => do
          let (isText, rest) ← startLetters true letters rest isText
          startOptions fuel isText rest
      | ('+' :: letters) :: rest => do
          let (isText, rest) ← startLetters false letters rest isText
          startOptions fuel isText rest
      | rest => pure ⟨isText, rest⟩

/-- Takes a name and arguments. -/
def takeName : List (List Char) → Running Unit
  | [] => pure ()
  | name :: arguments => modify fun store => { store with name := name, arguments := arguments }

/-- Does what the standard input says. -/
def obeyInput (evaluate : Evaluator) : Running Nat := do
  evaluateText evaluate (← readAll 0 Reading.patience []) {}

/-- Does what the arguments of a shell say. -/
def obey (evaluate : Evaluator) (arguments : List (List Char)) : Running Nat := do
  modify fun store => { store with line := 0 }
  let read ← startOptions (arguments.length + 1) false arguments
  let _ ← flush
  match read.isText, read.operands with
  | true, [] => fault (chars "-c requires an argument")
  | true, text :: rest =>
      takeName rest
      let readsInput := (← get).hasOption 's'
      let status ← evaluateText evaluate text { isLast := !readsInput }
      if readsInput then obeyInput evaluate else pure status
  | false, operands =>
      if operands.isEmpty || (← get).hasOption 's' then
        modify fun store =>
          { store with
            options := 's' :: store.options.filter (· ≠ 's')
            arguments := operands }
        obeyInput evaluate
      else
        let path := operands.headD []
        let descriptor ← openFile path OpenMode.forReading
        let text ← readAll descriptor Reading.patience []
        let _ ← ask (.close descriptor)
        takeName operands
        evaluateText evaluate text {}

/-- The process of a shell that is started with a name and arguments. -/
def start (evaluate : Evaluator) (arguments : List (List Char)) (surroundings : Surroundings) :
    Process :=
  let body : Running Nat := do
    takeSurroundings surroundings
    obey evaluate (arguments.drop 1)
  process evaluate body { name := arguments.headD [] }

end Running

end Shell

end Cadence
