import Cadence.Shell.Builtin.Options
import Cadence.Shell.Field

namespace Cadence

namespace Shell

open Host

/-!
# Parameters, arguments, options and aliases

The built-in commands that show and change what a shell remembers.
-/

/-- The options with their letters, in the order in which they are shown. -/
def shellOptions : List (String × Option Char) :=
  [("errexit", some 'e'), ("noglob", some 'f'), ("ignoreeof", some 'I'),
    ("interactive", some 'i'), ("monitor", some 'm'), ("noexec", some 'n'), ("stdin", some 's'),
    ("xtrace", some 'x'), ("verbose", some 'v'), ("vi", some 'V'), ("emacs", some 'E'),
    ("noclobber", some 'C'), ("allexport", some 'a'), ("notify", some 'b'),
    ("nounset", some 'u'), ("privileged", some 'p'), ("nolog", some '\x01'),
    ("debug", some '\x02')]

namespace Running

/-- A text in quotation marks, so that a shell reads it as one word.  The first argument bounds its
length. -/
def quotedFrom : Nat → List Char → List Char
  | 0, _ => []
  | fuel + 1, text =>
      let before := text.takeWhile (· ≠ '\'')
      let after := text.drop before.length
      let marks := after.takeWhile (· = '\'')
      let rest := after.drop marks.length
      let front := '\'' :: before ++ ['\'']
      if marks.isEmpty then
        front
      else
        let middle := front ++ '"' :: marks ++ ['"']
        if rest.isEmpty then middle else middle ++ quotedFrom fuel rest

/-- A text in quotation marks, so that a shell reads it as one word. -/
def quotedText (text : List Char) : List Char :=
  quotedFrom (text.length + 1) text

/-- The lines that show parameters, after a word. -/
def showParameters (word : List Char) (isShown : Parameter → Bool) : Running Unit := do
  let sorted := (← get).parameters.mergeSort fun first second => precedes first.1 second.1
  sorted.forM fun (name, parameter) => do
    if isShown parameter then
      let value := parameter.value.elim [] fun value => '=' :: quotedText value
      let front := if word.isEmpty then [] else word ++ [' ']
      say (front ++ name ++ value ++ ['\n'])

/-- The name and the value of an assignment; no value if there is no equals sign. -/
def cutAssignment (text : List Char) : List Char × Option (List Char) :=
  let name := text.takeWhile (· ≠ '=')
  match text.drop name.length with
  | _ :: value => (name, some value)
  | [] => (name, none)

/-- Marks parameters, and shows the marked ones if none are given. -/
def markParameters (word : String) (isMarked : Parameter → Bool) (mark : Parameter → Parameter)
    (arguments : List (List Char)) : Running Nat := do
  let (given, operands) ← takeOptions "p" arguments
  if !given.isEmpty || operands.isEmpty then
    showParameters (chars word) isMarked
  else
    operands.forM fun operand => do
      let (name, value) := cutAssignment operand
      if !isName name then
        fault (name ++ chars ": bad variable name")
      match value with
      | some value => setValue name value
      | none => pure ()
      markParameter name mark
  pure 0

/-- Exports parameters. -/
def exportParameters : List (List Char) → Running Nat :=
  markParameters "export" Parameter.isExported fun parameter =>
    { parameter with isExported := true }

/-- Protects parameters. -/
def protectParameters : List (List Char) → Running Nat :=
  markParameters "readonly" Parameter.isReadonly fun parameter =>
    { parameter with isReadonly := true }

/-- Makes parameters local to a function.  A name that comes with a value is taken as it is. -/
def makeLocal (arguments : List (List Char)) : Running Nat := do
  if (← get).locals.isEmpty then
    fault (chars "not in a function")
  arguments.forM fun argument => do
    if argument = ['-'] then
      modify fun store =>
        match store.locals with
        | [] => store
        | frame :: others =>
            { store with
              locals := { frame with options := some (frame.options.getD store.options) } ::
                others }
    else
      let (name, value) := cutAssignment argument
      if value.isNone && !isName name then
        fault (name ++ chars ": bad variable name")
      remember name
      match value with
      | some value => setValue name value
      | none => markParameter name id
  pure 0

/-- Forgets parameters or functions. -/
def forget (arguments : List (List Char)) : Running Nat := do
  let (given, operands) ← takeOptions "vf" arguments
  let isFunction := given.getLast?.any fun option => option.letter = 'f'
  operands.forM fun operand => do
    if isFunction then
      modify fun store =>
        { store with functions := store.functions.filter fun known => known.1 ≠ operand }
    else
      let name := operand.takeWhile (· ≠ '=')
      if isName name then
        unsetValue name
      else
        fault (name ++ chars ": bad variable name")
  pure 0

/-- Turns an option on or off. -/
def setOption (letter : Char) (isOn : Bool) : Running Unit := do
  if shellOptions.any fun option => option.2 = some letter then
    modify fun store =>
      let others := store.options.filter (· ≠ letter)
      { store with options := if isOn then letter :: others else others }
  else
    fault (chars "Illegal option -" ++ [letter])

/-- Shows all options. -/
def showOptions (asCommands : Bool) : Running Unit := do
  let store ← get
  if !asCommands then
    say (chars "Current option settings\n")
  shellOptions.forM fun (name, letter) => do
    let isOn := letter.any store.hasOption
    if asCommands then
      say (chars (if isOn then "set -o " else "set +o ") ++ chars name ++ ['\n'])
    else
      let blanks := List.replicate (16 - name.length) ' '
      say (chars name ++ blanks ++ chars (if isOn then "on\n" else "off\n"))

/-- Turns an option that is called by its name on or off. -/
def setNamedOption (name : List Char) (isOn : Bool) : Running Unit := do
  match shellOptions.find? fun option => option.1.toList = name with
  | some (_, some letter) => setOption letter isOn
  | _ => fault (chars "Illegal option -o " ++ name)

/-- Sets the options of some letters, with the arguments after them; the answer is what is left. -/
def setLetters (isOn : Bool) : List Char → List (List Char) → Running (List (List Char))
  | [], rest => pure rest
  | 'o' :: letters, rest => do
      match rest with
      | [] =>
          showOptions (!isOn)
          setLetters isOn letters []
      | name :: rest =>
          setNamedOption name isOn
          setLetters isOn letters rest
  | letter :: letters, rest => do
      setOption letter isOn
      setLetters isOn letters rest

/-- Sets the arguments of the shell. -/
def setArguments (arguments : List (List Char)) : Running Unit :=
  modify fun store => { store with arguments := arguments, cursor := {} }

/-- Sets options and then arguments.  The first number bounds the arguments. -/
def setAll : Nat → List (List Char) → Running Unit
  | 0, _ => pure ()
  | fuel + 1, arguments => do
      match arguments with
      | [] => pure ()
      | ['-', '-'] :: rest => setArguments rest
      | ['-'] :: rest =>
          modify fun store =>
            { store with
              options := store.options.filter fun letter => letter ≠ 'x' && letter ≠ 'v' }
          if !rest.isEmpty then
            setArguments rest
      | ('-' :: letters) :: rest => setAll fuel (← setLetters true letters rest)
      | ('+' :: letters) :: rest => setAll fuel (← setLetters false letters rest)
      | arguments => setArguments arguments

/-- Shows the parameters, or sets options and arguments. -/
def setCommand (arguments : List (List Char)) : Running Nat := do
  if arguments.isEmpty then
    showParameters [] fun parameter => parameter.value.isSome
  else
    setAll (arguments.length + 1) arguments
  pure 0

/-- Drops the first arguments. -/
def shiftArguments (arguments : List (List Char)) : Running Nat := do
  let count ←
    match arguments with
    | [] => pure 1
    | text :: _ => number text
  let store ← get
  if store.arguments.length < count then
    fault (chars "can't shift that many")
  setArguments (store.arguments.drop count)
  pure 0

/-- What reading an option has found: its letter, its argument, whether there are no more, and how
far the reading has come. -/
structure OptionFound where
  letter : Char := '?'
  argument : Option (List Char) := none
  message : Option (List Char) := none
  isEnd : Bool := false
  index : Nat
  offset : Option Nat := none

/-- Reads the next option of some arguments. -/
def nextOption (known : List Char) (arguments : List (List Char)) (cursor : OptionCursor) :
    OptionFound :=
  let isSilent := known.head? = some ':'
  let here : List Char :=
    match cursor.offset with
    | none => []
    | some offset =>
        if cursor.index ≤ 1 then [] else (arguments.getD (cursor.index - 2) []).drop offset
  /- The letters that are read, in which argument they stand, and how many were read before. -/
  let found : Option (List Char × Nat × Nat) ⊕ Nat :=
    match here with
    | _ :: _ => .inl (some (here, cursor.index, cursor.offset.getD 0))
    | [] =>
        match arguments[cursor.index - 1]? with
        | some ['-', '-'] => .inr (cursor.index + 1)
        | some ('-' :: c :: letters) => .inl (some (c :: letters, cursor.index + 1, 1))
        | _ => .inl none
  match found with
  | .inr index => { isEnd := true, index := index }
  | .inl none => { isEnd := true, index := cursor.index }
  | .inl (some ([], index, _)) => { isEnd := true, index := index }
  | .inl (some (letter :: letters, index, before)) =>
      match optionKind? letter known with
      | none =>
          { letter := '?'
            argument := if isSilent then some [letter] else none
            message :=
              if isSilent then none else some ("Illegal option -".toList ++ [letter, '\n'])
            index := index
            offset := some (before + 1) }
      | some false =>
          { letter := letter, argument := some [], index := index, offset := some (before + 1) }
      | some true =>
          if !letters.isEmpty then
            { letter := letter, argument := some letters, index := index }
          else
            match arguments[index - 1]? with
            | some argument => { letter := letter, argument := some argument, index := index + 1 }
            | none =>
                if isSilent then
                  { letter := ':', argument := some [letter], index := index }
                else
                  { letter := '?'
                    message := some ("No arg for -".toList ++ letter :: " option\n".toList)
                    index := index }

/-- Reads the next option of the arguments into a parameter; the status is 1 at their end. -/
def getOption (arguments : List (List Char)) : Running Nat := do
  match arguments with
  | known :: name :: own =>
      let store ← get
      let list := if own.isEmpty then store.arguments else own
      let cursor : OptionCursor :=
        if list.length + 1 < store.cursor.index then {} else store.cursor
      let found := nextOption known list cursor
      match found.message with
      | none => pure ()
      | some message =>
          let _ ← writeText 2 message
      if !found.isEnd then
        match found.argument with
        | some argument => setValue (chars "OPTARG") argument
        | none => unsetValue (chars "OPTARG")
      setValue (chars "OPTIND") (Numeral.digits found.index)
      setChecked name [found.letter]
      modify fun store => { store with cursor := ⟨found.index, found.offset⟩ }
      pure (if found.isEnd then 1 else 0)
  | _ => fault (chars "Usage: getopts optstring var [arg...]")

/-- A line that is being read.  Segments are held in reverse, and so are the characters that have
been read since the last one. -/
structure LineRead where
  segments : List Segment := []
  plain : List Glyph := []
  isEscaped : Bool := false
  isDone : Bool := false

namespace LineRead

/-- Ends the run of characters that may separate fields. -/
def settle (line : LineRead) : LineRead :=
  { line with segments := ⟨.fields, line.plain.reverse⟩ :: line.segments, plain := [] }

/-- Goes on with a character. -/
def step (isRaw : Bool) (line : LineRead) (c : Char) : LineRead :=
  if line.isDone || c = Char.ofNat 0 then
    line
  else if line.isEscaped then
    if c = '\n' then
      { line.settle with isEscaped := false }
    else
      let settled := line.settle
      { settled with
        segments := ⟨.never, [.char c true]⟩ :: settled.segments, isEscaped := false }
  else if c = '\\' && !isRaw then
    { line with isEscaped := true }
  else if c = '\n' then
    { line with isDone := true }
  else
    { line with plain := .char c false :: line.plain }

end LineRead

/-- Reads a line; the answer has it and whether it was complete. -/
def readLine (isRaw : Bool) : Nat → LineRead → Running (LineRead × Bool)
  | 0, line => pure (line, false)
  | fuel + 1, line => do
      match ← ask (.read 0 4096 true) with
      | .error _ => pure (line, false)
      | .ok [] => pure (line, false)
      | .ok text =>
          let line := text.foldl (LineRead.step isRaw) line
          if line.isDone then pure (line, true) else readLine isRaw fuel line

/-- Gives parameters the texts of fields; what is left of the parameters becomes empty. -/
def assignFields : List (List Char) → List (List Glyph) → Running Unit
  | [], _ => pure ()
  | name :: names, fields => do
      setChecked name (Glyph.text (fields.headD []))
      assignFields names (fields.drop 1)

/-- Reads a line into parameters; the status is 1 if the line is not complete. -/
def readParameters (arguments : List (List Char)) : Running Nat := do
  let (given, names) ← takeOptions "p:r" arguments
  let isRaw := given.any fun option => option.letter = 'r'
  if names.isEmpty then
    fault (chars "arg count")
  let (line, isComplete) ← readLine isRaw Reading.patience {}
  let segments := line.settle.segments.reverse
  let separators := (← get).separators.getD [' ', '\t', '\n']
  assignFields names (Segment.split separators (some names.length) segments)
  pure (if isComplete then 0 else 1)

/-- The place of an alias in the order in which aliases are shown. -/
def aliasPlace (name : List Char) : Nat :=
  (16 * (name.headD (Char.ofNat 0)).toNat +
    name.foldl (fun sum c => sum + c.toNat) 0) % 39

/-- Shows an alias. -/
def showAlias (name text : List Char) : Running Unit :=
  say (name ++ '=' :: quotedText text ++ ['\n'])

/-- Defines or shows aliases. -/
def aliasCommand (arguments : List (List Char)) : Running Nat := do
  if arguments.isEmpty then
    let sorted := (← get).aliases.mergeSort fun first second =>
      aliasPlace first.1 ≤ aliasPlace second.1
    sorted.forM fun (name, text) => showAlias name text
    pure 0
  else
    let failures ← arguments.mapM fun argument => do
      let (front, rest) := argument.splitAt 1
      let (name, value) := cutAssignment rest
      match value with
      | some value =>
          modify fun store =>
            { store with aliases := Store.put (front ++ name) value store.aliases }
          pure false
      | none =>
          match (← get).aliases.lookup argument with
          | some text =>
              showAlias argument text
              pure false
          | none =>
              let _ ← writeText 2 (chars "alias: " ++ argument ++ chars " not found\n")
              pure true
    pure (if failures.contains true then 1 else 0)

/-- Forgets aliases. -/
def unaliasCommand (arguments : List (List Char)) : Running Nat := do
  let (given, operands) ← takeOptions "a" arguments
  if !given.isEmpty then
    modify fun store => { store with aliases := [] }
    pure 0
  else
    let failures ← operands.mapM fun name => do
      if ((← get).aliases.lookup name).isSome then
        modify fun store =>
          { store with aliases := store.aliases.filter fun known => known.1 ≠ name }
        pure false
      else
        let _ ← writeText 2 (chars "unalias: " ++ name ++ chars " not found\n")
        pure true
    pure (if failures.contains true then 1 else 0)

end Running

end Shell

end Cadence
