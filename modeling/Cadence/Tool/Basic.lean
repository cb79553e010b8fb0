import Cadence.Host.Program

namespace Cadence

namespace Tool

open Host

/-!
# Tools

The programs that scripts call, and what they have in common: they write text to
their standard output, read files by name or from their standard input, and
complain on their standard error.
-/

/-- A text, by its bytes. -/
abbrev Bytes := List Char

/-- What a tool is started with. -/
structure Given where
  /-- The name by which it is called. -/
  name : Bytes
  arguments : List Bytes
  surroundings : Surroundings
  launch : Launch

/-- What a process does that has become a tool; the value is its exit status. -/
abbrev Procedure := Given → Job Nat

/-- No loop of a tool goes on for longer. -/
def patience : Nat := Nat.pow 2 40

/-- The bytes of a text of ASCII characters. -/
def chars (text : String) : Bytes :=
  text.toList

/-- Writes to a descriptor as long as there is something left; the answer is the refusal that has
ended it. -/
def writeUntil (descriptor : Nat) : Nat → Bytes → Job (Option Errno)
  | 0, _ => pure none
  | _, [] => pure none
  | fuel + 1, data => do
      match ← Job.ask (.write descriptor data) with
      | .error errno => pure (some errno)
      | .ok count => writeUntil descriptor fuel (data.drop count)

/-- Writes to a descriptor; the answer is whether that went well. -/
def writeTo (descriptor : Nat) (text : Bytes) : Job Bool := do
  pure (← writeUntil descriptor (text.length + 1) text).isNone

/-- Writes to the standard output. -/
def write (text : Bytes) : Job Bool :=
  writeTo 1 text

/-- Writes a line to the standard error. -/
def complain (given : Given) (text : Bytes) : Job Unit := do
  let line := given.name ++ chars ": " ++ text ++ ['\n']
  let _ ← writeTo 2 line

/-- Complains about a file. -/
def complainAbout (given : Given) (path : Bytes) (errno : Errno) : Job Unit :=
  complain given (path ++ chars ": " ++ errno.text)

/-- Writes to the standard output; if that is not possible the tool ends with a status. -/
def writeOrEnd (given : Given) (failure : Nat) (text : Bytes) : Job Unit := do
  match ← writeUntil 1 (text.length + 1) text with
  | none => pure ()
  | some errno => do
      complain given (chars "write error: " ++ errno.text)
      Job.exit failure

/-- Writes the whole output of a tool, and ends with a status, or with another one if that is not
possible. -/
def finishWith (given : Given) (status failure : Nat) (text : Bytes) : Job Nat := do
  writeOrEnd given failure text
  pure status

/-- Writes the whole output of a tool, and ends with a status. -/
def finish (given : Given) (status : Nat) (text : Bytes) : Job Nat :=
  finishWith given status 1 text

/-- The most bytes that a tool keeps of what it reads. -/
def mostBytes : Nat := 8 * 1024 * 1024

/-- Reads a descriptor until its text ends, is enough or is too long.  Whether it is enough is asked
each time when it has grown twofold.  The arguments tell its size, the size at which that is asked
next, and its pieces, the last one first. -/
def readUntil (isEnough : Bytes → Bool) (descriptor : Nat) :
    Nat → Nat → Nat → List Bytes → Job (Except Errno Bytes)
  | 0, _, _, pieces => pure (.ok pieces.reverse.flatten)
  | fuel + 1, size, next, pieces => do
      if mostBytes ≤ size then
        pure (.ok pieces.reverse.flatten)
      else if next ≤ size && isEnough pieces.reverse.flatten then
        pure (.ok pieces.reverse.flatten)
      else
        let later := if next ≤ size then 2 * size else next
        match ← Job.ask (.read descriptor 65536 false) with
        | .error errno => pure (.error errno)
        | .ok [] => pure (.ok pieces.reverse.flatten)
        | .ok piece =>
            readUntil isEnough descriptor fuel (size + piece.length) later (piece :: pieces)

/-- Goes back in a file, so that what has been read too much is there for others; where that is not
possible nothing happens. -/
def giveBack (descriptor surplus : Nat) : Job Unit := do
  if 0 < surplus then
    let _ ← Job.ask (.seek descriptor (-(surplus : Int)) .current)

/-- The file behind a descriptor, if it is a regular file that is also the output of a tool. -/
def ownOutput? (output : Option FileStatus) (descriptor : Nat) : Job (Option FileStatus) := do
  match output, ← Job.ask (.descriptorStatus descriptor) with
  | some output, .ok input =>
      pure (if input.kind = .regular && input.serial = output.serial then some input else none)
  | _, _ => pure none

/-- Opens a file; of a named pipe the other end is waited for. -/
def openPath (path : Bytes) (how : OpenMode) : Job (Except Errno Nat) := do
  match ← Job.ask (.openFile path how 0o666) with
  | .error errno => pure (.error errno)
  | .ok descriptor => Job.ask (.awaitPeer descriptor)

/-- Opens a file for reading; a hyphen stands for the standard input. -/
def openInput (path : Bytes) : Job (Except Errno Nat) :=
  if path = ['-'] then pure (.ok 0) else openPath path OpenMode.forReading

/-- Closes a file that has been read; the standard input stays open. -/
def closeInput (path : Bytes) (descriptor : Nat) : Job Unit := do
  if path ≠ ['-'] then
    let _ ← Job.ask (.close descriptor)

/-- Reads a file until its text is enough; a hyphen stands for the standard input. -/
def readFileUntil (isEnough : Bytes → Bool) (path : Bytes) : Job (Except Errno Bytes) := do
  match ← openInput path with
  | .error errno => pure (.error errno)
  | .ok descriptor =>
      let text ← readUntil isEnough descriptor patience 0 65536 []
      closeInput path descriptor
      pure text

/-- Reads a whole file; a hyphen stands for the standard input. -/
def readFile (path : Bytes) : Job (Except Errno Bytes) :=
  readFileUntil (fun _ => false) path

/-- Reads files, and complains about those that cannot be read.  The answer has their names and
texts, and says whether all of them could be read. -/
def readFiles (given : Given) : List Bytes → Job (List (Bytes × Bytes) × Bool)
  | [] => pure ([], true)
  | path :: rest => do
      match ← readFile path with
      | .error errno => do
          complainAbout given path errno
          let (others, _) ← readFiles given rest
          pure (others, false)
      | .ok text => do
          let (others, isComplete) ← readFiles given rest
          pure ((path, text) :: others, isComplete)

/-- The files that operands name: without any, the standard input. -/
def inputsOf (operands : List Bytes) : List Bytes :=
  if operands.isEmpty then [['-']] else operands

/-- The pieces of a text, each of which ends with a mark, and what is left. -/
def pieces (mark : Char) (text : Bytes) : List Bytes :=
  let all := text.splitOn mark
  if all.getLast? = some [] then all.dropLast else all

/-- The lines of a text. -/
def lines (text : Bytes) : List Bytes :=
  pieces '\n' text

/-- The text of lines. -/
def unlines (lines : List Bytes) : Bytes :=
  lines.flatMap fun line => line ++ ['\n']

/-- The number that decimal digits write. -/
def number? (text : Bytes) : Option Nat :=
  Files.number? text

/-- The number that decimal digits write, possibly after a sign. -/
def integer? (text : Bytes) : Option Int :=
  match text with
  | '-' :: digits => (number? digits).map fun value => -(value : Int)
  | '+' :: digits => (number? digits).map fun value => (value : Int)
  | digits => (number? digits).map fun value => (value : Int)

/-- The decimal digits of a number. -/
def digits (value : Nat) : Bytes :=
  Nat.toDigits 10 value

/-- An option that a tool knows. -/
structure Known where
  letter : Char
  name : String := ""
  takesArgument : Bool := false

/-- An option that has been given. -/
structure Choice where
  letter : Char
  argument : Bytes := []

/-- The options and operands of a tool. -/
structure Choices where
  options : List Choice := []
  operands : List Bytes := []

namespace Choices

/-- Whether an option has been given. -/
def has (choices : Choices) (letter : Char) : Bool :=
  choices.options.any fun choice => choice.letter = letter

/-- The arguments of an option, in the order in which they have been given. -/
def arguments (choices : Choices) (letter : Char) : List Bytes :=
  (choices.options.filter fun choice => choice.letter = letter).map Choice.argument

/-- The last argument of an option. -/
def argument? (choices : Choices) (letter : Char) : Option Bytes :=
  (choices.arguments letter).getLast?

/-- The last option of some that has been given. -/
def last? (choices : Choices) (letters : List Char) : Option Char :=
  ((choices.options.filter fun choice => letters.contains choice.letter).map
    Choice.letter).getLast?

end Choices

/-- Reads the letters of an argument; the answer has what is left of the arguments. -/
def readLetters (known : List Known) :
    Bytes → List Bytes → List Choice → Except Bytes (List Choice × List Bytes)
  | [], rest, done => .ok (done, rest)
  | letter :: letters, rest, done =>
      match known.find? fun option => option.letter = letter with
      | none => .error (chars "invalid option -- '" ++ [letter, '\''])
      | some option =>
          if option.takesArgument then
            if !letters.isEmpty then
              .ok (⟨letter, letters⟩ :: done, rest)
            else
              match rest with
              | [] =>
                  .error (chars "option requires an argument -- '" ++ [letter, '\''])
              | argument :: rest => .ok (⟨letter, argument⟩ :: done, rest)
          else
            readLetters known letters rest (⟨letter, []⟩ :: done)

/-- Reads a named option, whose name may be cut short. -/
def readNamed (known : List Known) (text : Bytes) (rest : List Bytes) (done : List Choice) :
    Except Bytes (List Choice × List Bytes) :=
  let name := text.takeWhile (· ≠ '=')
  let value? := (text.drop name.length).tail?
  let exact := known.filter fun option => option.name.toList = name
  let near := known.filter fun option => !option.name.isEmpty && name.isPrefixOf option.name.toList
  match if exact.isEmpty then near else exact with
  | [option] =>
      match option.takesArgument, value?, rest with
      | false, none, rest => .ok (⟨option.letter, []⟩ :: done, rest)
      | true, some value, rest => .ok (⟨option.letter, value⟩ :: done, rest)
      | true, none, argument :: rest => .ok (⟨option.letter, argument⟩ :: done, rest)
      | _, _, _ => .error (chars "option '--" ++ name ++ chars "' has a bad argument")
  | _ => .error (chars "unrecognized option '--" ++ text ++ ['\''])

/-- Reads options and operands.  Options may follow operands unless the operands are a command. -/
def readArguments (known : List Known) (isCommand : Bool) :
    Nat → List Bytes → List Choice → List Bytes → Except Bytes Choices
  | 0, _, options, operands => .ok ⟨options.reverse, operands.reverse⟩
  | fuel + 1, arguments, options, operands =>
      match arguments with
      | [] => .ok ⟨options.reverse, operands.reverse⟩
      | ['-', '-'] :: rest => .ok ⟨options.reverse, operands.reverse ++ rest⟩
      | ('-' :: '-' :: text) :: rest =>
          match readNamed known text rest options with
          | .error reason => .error reason
          | .ok (options, rest) => readArguments known isCommand fuel rest options operands
      | ('-' :: letter :: letters) :: rest =>
          match readLetters known (letter :: letters) rest options with
          | .error reason => .error reason
          | .ok (options, rest) => readArguments known isCommand fuel rest options operands
      | operand :: rest =>
          if isCommand then
            .ok ⟨options.reverse, operands.reverse ++ operand :: rest⟩
          else
            readArguments known isCommand fuel rest options (operand :: operands)

/-- Options without arguments, by their letters. -/
def switches (letters : String) : List Known :=
  letters.toList.map fun letter => { letter := letter }

/-- Ends with a complaint. -/
def refuse (given : Given) (status : Nat) (reason : Bytes) : Job Nat := do
  complain given reason
  pure status

/-- Ends with a complaint about the arguments. -/
def misuse (given : Given) (status : Nat) (reason : Bytes) : Job Nat := do
  complain given reason
  let hint := chars "Try '" ++ given.name ++ chars " --help' for more information.\n"
  let _ ← writeTo 2 hint
  pure status

/-- Reads the arguments of a tool and does something with them.  A complaint about them is its end,
and so is a question about the tool itself. -/
def withChoices (given : Given) (known : List Known) (isCommand : Bool) (failure : Nat)
    (body : Choices → Job Nat) : Job Nat := do
  let first := given.arguments.headD []
  if first = chars "--help" || first = chars "--version" then
    finish given 0 (given.name ++ ['\n'])
  else
    match readArguments known isCommand (given.arguments.length + 1) given.arguments [] [] with
    | .ok choices => body choices
    | .error reason => misuse given failure reason

end Tool

end Cadence
