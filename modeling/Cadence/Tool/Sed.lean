import Cadence.Tool.Basic
import Cadence.Tool.Regex

namespace Cadence

namespace Tool

open Host

/-!
# Editing streams

`sed` runs a script for each line: its commands change the line, which is written
when the script is over.
-/

namespace Sed

/-- A line that a command asks for. -/
inductive Address
  | line (number : Nat)
  | last
  | step (first width : Nat)
  /-- A line that matches; without an expression that is the last one that was used. -/
  | pattern (expression : Option (Regex × Bool))

/-- Where a range of lines ends. -/
inductive RangeEnd
  | address (address : Address)
  /-- So many lines after the first one. -/
  | following (count : Nat)
  /-- The next line whose number is a multiple. -/
  | multiple (width : Nat)

/-- A part of what is put in the place of a match. -/
inductive Replacement
  | text (text : Bytes)
  /-- What a group has matched; group 0 is the whole match. -/
  | group (number : Nat)
  /-- A change of letter case: of the next letter only, or up to the end. -/
  | letterCase (mark : Char)

/-- What a command does. -/
inductive Action
  | nothing
  /-- Goes on after a place if the line is not asked for. -/
  | block (stop : Nat)
  | substitute (expression : Option (Regex × Bool)) (replacement : List Replacement)
      (isGlobal : Bool) (occurrence : Nat) (prints : Bool) (file : Option Bytes)
  | translate (pairs : List (Char × Char))
  | print
  | printFirst
  | delete
  | deleteFirst
  | next
  | nextAppended
  | quit (status : Nat) (prints : Bool)
  | append (text : Bytes)
  | insert (text : Bytes)
  | change (text : Bytes)
  | number
  | hold
  | holdAppended
  | get
  | getAppended
  | exchange
  | clear
  | branch (target : Nat)
  | branchIf (target : Nat)
  | branchUnless (target : Nat)
  | readFile (path : Bytes)
  | writeFile (path : Bytes)
  | list

/-- A command of a script. -/
structure Command where
  first : Option Address := none
  second : Option RangeEnd := none
  isNegated : Bool := false
  action : Action

/-- A command that has been read, whose label has not been looked up. -/
inductive ReadAction
  | action (action : Action)
  | open_
  | close
  | label (name : Bytes)
  | jump (kind : Char) (label : Bytes)

/-- A script as it is read. -/
structure ReadCommand where
  first : Option Address := none
  second : Option RangeEnd := none
  isNegated : Bool := false
  action : ReadAction

/-- The text up to a mark that is not quoted by a backslash, and the rest.  A quoted mark loses its
backslash, and `\n` is a newline; sets keep marks.  The first argument bounds the length. -/
def delimited (mark : Char) (isPattern : Bool) :
    Nat → Bool → Bytes → Option (Bytes × Bytes)
  | 0, _, _ => none
  | _, _, [] => none
  | fuel + 1, inSet, '\\' :: c :: rest =>
      if inSet then
        (delimited mark isPattern fuel inSet (c :: rest)).map fun (text, after) =>
          ('\\' :: text, after)
      else
        let kept := if c = mark && c ≠ '\\' && !(isPattern && c = 'n') then [c] else ['\\', c]
        (delimited mark isPattern fuel inSet rest).map fun (text, after) => (kept ++ text, after)
  | fuel + 1, inSet, c :: rest =>
      if c = mark && !inSet then
        some ([], rest)
      else if isPattern && !inSet && c = '[' then
        let (front, body) : Bytes × Bytes :=
          match rest with
          | '^' :: ']' :: body => (['[', '^', ']'], body)
          | '^' :: body => (['[', '^'], body)
          | ']' :: body => (['[', ']'], body)
          | body => (['['], body)
        if (body.takeWhile (· ≠ '\n')).contains ']' then
          (delimited mark isPattern fuel true body).map fun (text, after) =>
            (front ++ text, after)
        else
          (delimited mark isPattern fuel false rest).map fun (text, after) => (c :: text, after)
      else if inSet && c = '[' && (rest.head? = some ':') then
        (delimited mark isPattern fuel true (rest.dropWhile (· ≠ ']') |>.drop 1)).map
          fun (text, after) => ('[' :: rest.takeWhile (· ≠ ']') ++ ']' :: text, after)
      else
        let inSet := inSet && c ≠ ']'
        (delimited mark isPattern fuel inSet rest).map fun (text, after) => (c :: text, after)

/-- The parts of a replacement. -/
def replacement : Nat → Bytes → List Replacement
  | 0, _ => []
  | _, [] => []
  | fuel + 1, '&' :: rest => .group 0 :: replacement fuel rest
  | fuel + 1, '\\' :: c :: rest =>
      if c.isDigit then
        .group (c.toNat - '0'.toNat) :: replacement fuel rest
      else if "LUluE".toList.contains c then
        .letterCase c :: replacement fuel rest
      else
        let d := match c with
          | 'n' => '\n'
          | 't' => '\t'
          | c => c
        .text [d] :: replacement fuel rest
  | fuel + 1, c :: rest => .text [c] :: replacement fuel rest

/-- Reading a script fails with a message. -/
abbrev Reading := StateT Bytes (Except String)

/-- Skips characters. -/
def skip (skipped : Char → Bool) : Reading Unit :=
  modify fun rest => rest.dropWhile skipped

/-- Whether a character is a blank within a line. -/
def isBlank (c : Char) : Bool :=
  c = ' ' || c = '\t'

/-- The digits at the front of the script. -/
def takeNumber? : Reading (Option Nat) := do
  let rest ← get
  let digits := rest.takeWhile Char.isDigit
  set (rest.drop digits.length)
  pure (number? digits)

/-- The next character, if it is a certain one. -/
def takeIf (c : Char) : Reading Bool := do
  match ← get with
  | d :: rest =>
      if d = c then
        set rest
        pure true
      else
        pure false
  | [] => pure false

/-- Reads a text up to a mark. -/
def takeDelimited (mark : Char) (isPattern : Bool) (message : String) : Reading Bytes := do
  let rest ← get
  match delimited mark isPattern (rest.length + 1) false rest with
  | none => throw message
  | some (text, after) =>
      set after
      pure text

/-- The expression of a text; the empty text stands for the last one that was used. -/
def expressionOf (isExtended foldsCase : Bool) (text : Bytes) :
    Reading (Option (Regex × Bool)) := do
  if text.isEmpty then
    pure none
  else
    match Regex.ofText { isExtended := isExtended, foldsCase := foldsCase, hasEscapes := true }
        text with
    | .error message => throw message
    | .ok (expression, _) => pure (some (expression, foldsCase))

/-- Reads an address, if there is one. -/
def address? (isExtended : Bool) : Reading (Option Address) := do
  match ← get with
  | '$' :: rest =>
      set rest
      pure (some .last)
  | c :: rest =>
      if c.isDigit then
        let first := (← takeNumber?).getD 0
        if ← takeIf '~' then
          pure (some (.step first ((← takeNumber?).getD 0)))
        else
          pure (some (.line first))
      else if c = '/' || (c = '\\' && !rest.isEmpty) then
        let mark := if c = '/' then '/' else rest.headD '/'
        set (if c = '/' then rest else rest.drop 1)
        let text ← takeDelimited mark true "unterminated address regex"
        let foldsCase ← takeIf 'I'
        pure (some (.pattern (← expressionOf isExtended foldsCase text)))
      else
        pure none
  | [] => pure none

/-- Reads the end of a range. -/
def rangeEnd (isExtended : Bool) : Reading RangeEnd := do
  if ← takeIf '+' then
    pure (.following ((← takeNumber?).getD 0))
  else if ← takeIf '~' then
    pure (.multiple ((← takeNumber?).getD 0))
  else
    match ← address? isExtended with
    | some address => pure (.address address)
    | none => throw "unexpected `,'"

/-- The rest of the line. -/
def takeLine : Reading Bytes := do
  let rest ← get
  let line := rest.takeWhile (· ≠ '\n')
  set (rest.drop line.length)
  pure line

/-- The text of a command, up to a newline that is not quoted. -/
def quotedLines : Nat → Bytes → Bytes × Bytes
  | 0, rest => ([], rest)
  | _, [] => ([], [])
  | _, '\n' :: rest => ([], rest)
  | fuel + 1, '\\' :: c :: rest =>
      let (text, after) := quotedLines fuel rest
      (c :: text, after)
  | fuel + 1, c :: rest =>
      let (text, after) := quotedLines fuel rest
      (c :: text, after)

/-- Reads the text of a command. -/
def takeText : Reading Bytes := do
  skip isBlank
  match ← get with
  | '\\' :: rest =>
      let after := rest.dropWhile isBlank
      match after with
      | '\n' :: body => set body
      | _ => set rest
  | [] => throw "expected \\ after `a', `c' or `i'"
  | _ => pure ()
  let rest ← get
  let (text, after) := quotedLines (rest.length + 1) rest
  set ('\n' :: after)
  pure (text ++ ['\n'])

/-- Reads a label. -/
def takeLabel : Reading Bytes := do
  skip isBlank
  let rest ← get
  let label := rest.takeWhile fun c => c ≠ '\n' && c ≠ ';' && c ≠ '\x7d' && !isBlank c
  set (rest.drop label.length)
  pure label

/-- The flags of a substitution. -/
structure Flags where
  isGlobal : Bool := false
  occurrence : Nat := 1
  prints : Bool := false
  foldsCase : Bool := false
  file : Option Bytes := none

/-- Reads the flags of a substitution.  The first argument bounds their number. -/
def flags : Nat → Flags → Reading Flags
  | 0, done => pure done
  | fuel + 1, done => do
      match ← get with
      | 'g' :: rest =>
          set rest
          flags fuel { done with isGlobal := true }
      | 'p' :: rest =>
          set rest
          flags fuel { done with prints := true }
      | 'i' :: rest | 'I' :: rest =>
          set rest
          flags fuel { done with foldsCase := true }
      | 'm' :: rest | 'M' :: rest =>
          set rest
          flags fuel done
      | 'w' :: rest =>
          set rest
          skip isBlank
          pure { done with file := some (← takeLine) }
      | c :: _ =>
          if c.isDigit then
            match ← takeNumber? with
            | some 0 => throw "number option to `s' command may not be zero"
            | number => flags fuel { done with occurrence := number.getD 1 }
          else if c = '\n' || c = ';' || c = '\x7d' || c = '#' || isBlank c then
            pure done
          else
            throw "unknown option to `s'"
      | [] => pure done

/-- The characters of a text in which backslashes quote. -/
def unquoted : Bytes → Bytes
  | '\\' :: 'n' :: rest => '\n' :: unquoted rest
  | '\\' :: c :: rest => c :: unquoted rest
  | c :: rest => c :: unquoted rest
  | [] => []

/-- Reads what a command does, after its name. -/
def readAction (isExtended : Bool) (name : Char) : Reading ReadAction := do
  let simple (action : Action) : Reading ReadAction := pure (.action action)
  match name with
  | '\x7b' => pure .open_
  | '\x7d' => pure .close
  | ':' => do
      let label ← takeLabel
      if label.isEmpty then throw "\":\" lacks a label"
      pure (.label label)
  | 'b' | 't' | 'T' => pure (.jump name (← takeLabel))
  | 'a' => simple (.append (← takeText))
  | 'i' => simple (.insert (← takeText))
  | 'c' => simple (.change (← takeText))
  | '=' => simple .number
  | 'd' => simple .delete
  | 'D' => simple .deleteFirst
  | 'g' => simple .get
  | 'G' => simple .getAppended
  | 'h' => simple .hold
  | 'H' => simple .holdAppended
  | 'l' => simple .list
  | 'n' => simple .next
  | 'N' => simple .nextAppended
  | 'p' => simple .print
  | 'P' => simple .printFirst
  | 'x' => simple .exchange
  | 'z' => simple .clear
  | 'q' | 'Q' => do
      skip isBlank
      simple (.quit ((← takeNumber?).getD 0) (name = 'q'))
  | 'r' => do
      skip isBlank
      simple (.readFile (← takeLine))
  | 'w' => do
      skip isBlank
      simple (.writeFile (← takeLine))
  | 's' => do
      match ← get with
      | [] => throw "unterminated `s' command"
      | mark :: rest => do
          set rest
          let pattern ← takeDelimited mark true "unterminated `s' command"
          let text ← takeDelimited mark false "unterminated `s' command"
          let known ← flags ((← get).length + 1) {}
          let expression ← expressionOf isExtended known.foldsCase pattern
          simple
            (.substitute expression (replacement (text.length + 1) text) known.isGlobal
              known.occurrence known.prints known.file)
  | 'y' => do
      match ← get with
      | [] => throw "unterminated `y' command"
      | mark :: rest => do
          set rest
          let first ← takeDelimited mark false "unterminated `y' command"
          let second ← takeDelimited mark false "unterminated `y' command"
          let pairs := (unquoted first).zip (unquoted second)
          if (unquoted first).length ≠ (unquoted second).length then
            throw "strings for `y' command are different lengths"
          simple (.translate pairs)
  | name => throw ("unknown command: `" ++ String.ofList [name] ++ "'")

/-- Whether a character may stand after a command. -/
def endsCommand (c : Char) : Bool :=
  c = '\n' || c = ';' || c = '\x7d' || c = '#'

/-- Reads the commands of a script.  The first argument bounds their number. -/
def readCommands (isExtended : Bool) : Nat → Reading (List ReadCommand)
  | 0 => pure []
  | fuel + 1 => do
      skip fun c => isBlank c || c = '\n' || c = ';'
      match ← get with
      | [] => pure []
      | '#' :: _ =>
          let _ ← takeLine
          readCommands isExtended fuel
      | _ => do
          let first ← address? isExtended
          skip isBlank
          let second ←
            if first.isSome then
              if ← takeIf ',' then do
                skip isBlank
                some <$> rangeEnd isExtended
              else
                pure none
            else
              pure none
          skip isBlank
          let isNegated ← takeIf '!'
          skip fun c => isBlank c || c = '!'
          match ← get with
          | [] => throw "missing command"
          | name :: rest => do
              set rest
              let action ← readAction isExtended name
              skip isBlank
              let isOpen := match action with
                | .open_ | .close => true
                | _ => false
              if !isOpen && !(← get).head?.all endsCommand then
                throw "extra characters after command"
              let others ← readCommands isExtended fuel
              pure (⟨first, second, isNegated, action⟩ :: others)

/-- The place after the block that begins before a place. -/
def blockEnd (commands : Array ReadCommand) : Nat → Nat → Nat → Option Nat
  | 0, _, _ => none
  | fuel + 1, place, depth =>
      match commands[place]? with
      | none => none
      | some command =>
          match command.action with
          | .open_ => blockEnd commands fuel (place + 1) (depth + 1)
          | .close => if depth = 0 then some (place + 1) else
              blockEnd commands fuel (place + 1) (depth - 1)
          | _ => blockEnd commands fuel (place + 1) depth

/-- The script of commands that have been read. -/
def resolve (commands : Array ReadCommand) : Except String (Array Command) := do
  let target (label : Bytes) : Except String Nat :=
    if label.isEmpty then
      .ok commands.size
    else
      match commands.findIdx? fun command =>
        match command.action with
        | .label name => name = label
        | _ => false with
      | some place => .ok place
      | none => .error ("can't find label for jump to `" ++ String.ofList label ++ "'")
  let opened := commands.toList.foldl
    (fun depth command =>
      match command.action with
      | .open_ => depth.map (· + 1)
      | .close => depth.bind fun depth => if depth = 0 then none else some (depth - 1)
      | _ => depth)
    (some 0)
  match opened with
  | none => throw "unexpected `\x7d'"
  | some 0 =>
      (commands.zip (Array.range commands.size)).mapM fun (command, place) => do
        let action : Action ←
          match command.action with
          | .action action => pure action
          | .open_ =>
              pure (.block ((blockEnd commands (commands.size + 1) (place + 1) 0).getD
                commands.size))
          | .close | .label _ => pure .nothing
          | .jump kind label => do
              let place ← target label
              pure (match kind with
                | 'b' => .branch place
                | 't' => .branchIf place
                | _ => .branchUnless place)
        pure ⟨command.first, command.second, command.isNegated, action⟩
  | some _ => throw "unmatched `\x7b'"

/-- The script that a text writes. -/
def script (isExtended : Bool) (text : Bytes) : Except String (Array Command) := do
  let (commands, _) ← (readCommands isExtended (text.length + 1)).run text
  resolve commands.toArray

/-- What is going on while a script is run. -/
structure State where
  pattern : Bytes := []
  held : Bytes := []
  line : Nat := 0
  /-- The lines that have not been read, with whether they end with a newline. -/
  input : List (Bytes × Bool)
  endsWithNewline : Bool := true
  /-- Pieces of output, the last one first. -/
  output : List Bytes := []
  /-- What is written after the line, the last text first. -/
  queue : List Bytes := []
  hasReplaced : Bool := false
  /-- The ranges that are open, by the places of their commands, and where they end. -/
  ranges : List (Nat × Option Nat) := []
  lastExpression : Option (Regex × Bool) := none
  /-- The texts that are written to files. -/
  files : List (Bytes × Bytes) := []
  status : Nat := 0

namespace State

/-- Writes a text. -/
def say (state : State) (text : Bytes) : State :=
  { state with output := text :: state.output }

/-- Writes a line as it ended when it was read. -/
def sayLine (state : State) (text : Bytes) : State :=
  state.say (if state.endsWithNewline then text ++ ['\n'] else text)

/-- Writes what has to be written after the line. -/
def flush (state : State) : State :=
  { state with output := state.queue ++ state.output, queue := [] }

/-- Reads the next line. -/
def advance? (state : State) : Option (Bytes × State) :=
  match state.input with
  | [] => none
  | (line, endsWithNewline) :: rest =>
      some (line,
        { state with input := rest, line := state.line + 1, endsWithNewline := endsWithNewline })

/-- Adds to what is written to a file. -/
def writeTo (state : State) (path text : Bytes) : State :=
  let former := (state.files.lookup path).getD []
  let others := state.files.filter fun known => known.1 ≠ path
  { state with files := others ++ [(path, former ++ text)] }

end State

/-- Whether an address asks for the line. -/
def asksFor (state : State) : Address → Bool × State
  | .line number => (state.line = number, state)
  | .last => (state.input.isEmpty, state)
  | .step first width =>
      (if width = 0 then state.line = first
        else first ≤ state.line && (state.line - first) % width = 0, state)
  | .pattern expression =>
      match expression.or state.lastExpression with
      | none => (false, state)
      | some (expression, foldsCase) =>
          ((Regex.search expression foldsCase 0 none state.pattern).isSome,
            { state with lastExpression := some (expression, foldsCase) })

/-- Whether a command is to be run for the line. -/
def isSelected (place : Nat) (command : Command) (state : State) : Bool × State :=
  match command.first, command.second with
  | none, _ => (true, state)
  | some first, none => asksFor state first
  | some first, some stop =>
      let others := state.ranges.filter fun range => range.1 ≠ place
      match state.ranges.lookup place with
      | some bound =>
          match bound, stop with
          | some bound, _ =>
              if bound ≤ state.line then
                (state.line ≤ bound, { state with ranges := others })
              else
                (true, state)
          | none, .address address =>
              let (isEnd, state) := asksFor state address
              (true, if isEnd then { state with ranges := others } else state)
          | none, _ => (true, state)
      | none =>
          let (isStart, state) : Bool × State :=
            match first with
            | .line 0 => (state.line = 1, state)
            | first => asksFor state first
          if !isStart then
            (false, state)
          else
            let opened (bound : Option Nat) : State :=
              { state with ranges := (place, bound) :: others }
            match stop with
            | .address (.line number) =>
                (true, if number ≤ state.line then state else opened (some number))
            | .following count =>
                (true, if count = 0 then state else opened (some (state.line + count)))
            | .multiple width =>
                let bound := if width = 0 then state.line
                  else (state.line + width - 1) / width * width
                (true, if bound ≤ state.line then state else opened (some bound))
            | .address address =>
                match first with
                | .line 0 =>
                    let (isEnd, state) := asksFor state address
                    (true, if isEnd then state else
                      { state with ranges := (place, none) :: others })
                | _ =>
                    if state.input.isEmpty then (true, state) else (true, opened none)

/-- The text of a replacement.  A change of letter case holds for one letter or on. -/
def replaced (found : Regex.Captures) (whole : Bytes) :
    Option Char → Option Char → List Replacement → Bytes
  | _, _, [] => []
  | once, lasting, part :: rest =>
      let changed (text : Bytes) : Bytes :=
        let all := match lasting with
          | some 'U' => text.map Char.toUpper
          | some 'L' => text.map Char.toLower
          | _ => text
        match once, all with
        | some 'u', c :: others => c.toUpper :: others
        | some 'l', c :: others => c.toLower :: others
        | _, all => all
      match part with
      | .letterCase mark =>
          if mark = 'u' || mark = 'l' then
            replaced found whole (some mark) lasting rest
          else
            replaced found whole once (if mark = 'E' then none else some mark) rest
      | .text text => changed text ++ replaced found whole none lasting rest
      | .group number =>
          let text := if number = 0 then whole else (found.lookup number).getD []
          changed text ++ replaced found whole (if text.isEmpty then once else none) lasting rest

/-- Substitutes matches from a place on: the occurrences from a number on, or only that one.  The
answer has the text and whether something has been substituted. -/
def substituted (expression : Regex) (foldsCase : Bool) (parts : List Replacement)
    (isGlobal : Bool) : Nat → Nat → Option Nat → Regex.Place → Bytes × Bool
  | 0, _, _, place => (place.rest, false)
  | fuel + 1, wanted, afterMatch, place =>
      match Regex.search expression foldsCase place.position place.before place.rest with
      | none => (place.rest, false)
      | some (start, found) =>
          let before := Regex.between place start
          let whole := Regex.between start found.stop
          /- An empty match directly after another match does not count. -/
          let isVoid := whole.isEmpty && afterMatch = some start.position
          let goOn (wanted : Nat) : Bytes × Bool :=
            if whole.isEmpty then
              match start.rest with
              | [] => ([], false)
              | c :: rest =>
                  let (text, isDone) :=
                    substituted expression foldsCase parts isGlobal fuel wanted none
                      ⟨start.position + 1, some c, rest⟩
                  (c :: text, isDone)
            else
              substituted expression foldsCase parts isGlobal fuel wanted
                (some found.stop.position) found.stop
          if isVoid then
            let (text, isDone) := goOn wanted
            (before ++ text, isDone)
          else if 1 < wanted then
            let (text, isDone) := goOn (wanted - 1)
            (before ++ whole ++ text, isDone)
          else
            let text := replaced found.captures whole none none parts
            if isGlobal then
              (before ++ text ++ (goOn wanted).1, true)
            else
              (before ++ text ++ found.stop.rest, true)

/-- A line in which every character can be seen. -/
def listed (text : Bytes) : Bytes :=
  text.flatMap fun c =>
    match c with
    | '\\' => ['\\', '\\']
    | '\n' => ['\\', 'n']
    | '\t' => ['\\', 't']
    | c =>
        if c.toNat < 32 || 126 < c.toNat then
          let octal := Nat.toDigits 8 c.toNat
          '\\' :: List.replicate (3 - octal.length) '0' ++ octal
        else
          [c]

/-- How the run of a script for a line goes on. -/
inductive Outcome
  | done (state : State)
  /-- The line is not written. -/
  | dropped (state : State)
  /-- The script is run again with what is left of the line. -/
  | restarted (state : State)
  | ended (state : State)

/-- Runs a script from a place on.  The first argument bounds the steps. -/
def run (isQuiet : Bool) (contents : List (Bytes × Bytes)) (commands : Array Command) :
    Nat → Nat → State → Outcome
  | 0, _, state => .ended state
  | fuel + 1, place, state =>
      match commands[place]? with
      | none => .done state
      | some command =>
          let (isAsked, state) := isSelected place command state
          let goOn (state : State) : Outcome :=
            run isQuiet contents commands fuel (place + 1) state
          let jump (target : Nat) (state : State) : Outcome :=
            run isQuiet contents commands fuel target state
          if isAsked = command.isNegated then
            match command.action with
            | .block stop => jump stop state
            | _ => goOn state
          else
            match command.action with
            | .nothing | .block _ => goOn state
            | .print => goOn (state.sayLine state.pattern)
            | .printFirst => goOn (state.say (state.pattern.takeWhile (· ≠ '\n') ++ ['\n']))
            | .delete => .dropped state
            | .deleteFirst =>
                if state.pattern.contains '\n' then
                  .restarted
                    { state with
                      pattern := (state.pattern.dropWhile (· ≠ '\n')).drop 1 }
                else
                  .dropped state
            | .next =>
                match state.advance? with
                | none => .ended (if isQuiet then state else state.sayLine state.pattern).flush
                | some (line, after) =>
                    let written := (if isQuiet then state else state.sayLine state.pattern).flush
                    goOn { after with pattern := line, output := written.output, queue := [] }
            | .nextAppended =>
                match state.advance? with
                | none => .ended (if isQuiet then state else state.sayLine state.pattern).flush
                | some (line, after) =>
                    goOn { after.flush with pattern := state.pattern ++ '\n' :: line }
            | .quit status prints =>
                let written :=
                  if prints && !isQuiet then state.sayLine state.pattern else state
                .ended { (if prints then written.flush else written) with status := status }
            | .append text => goOn { state with queue := text :: state.queue }
            | .insert text => goOn (state.say text)
            | .change text =>
                let isInside := command.second.isSome && !command.isNegated &&
                  (state.ranges.lookup place).isSome
                .dropped (if isInside then state else state.say text)
            | .number => goOn (state.say (digits state.line ++ ['\n']))
            | .hold => goOn { state with held := state.pattern }
            | .holdAppended => goOn { state with held := state.held ++ '\n' :: state.pattern }
            | .get => goOn { state with pattern := state.held }
            | .getAppended => goOn { state with pattern := state.pattern ++ '\n' :: state.held }
            | .exchange => goOn { state with pattern := state.held, held := state.pattern }
            | .clear => goOn { state with pattern := [] }
            | .branch target => jump target state
            | .branchIf target =>
                if state.hasReplaced then jump target { state with hasReplaced := false }
                else goOn state
            | .branchUnless target =>
                if state.hasReplaced then goOn { state with hasReplaced := false }
                else jump target state
            | .readFile path =>
                goOn { state with queue := (contents.lookup path).getD [] :: state.queue }
            | .writeFile path => goOn (state.writeTo path (state.pattern ++ ['\n']))
            | .list => goOn (state.say (listed state.pattern ++ ['$', '\n']))
            | .translate pairs =>
                goOn
                  { state with
                    pattern := state.pattern.map fun c => (pairs.lookup c).getD c }
            | .substitute expression parts isGlobal occurrence prints file =>
                match expression.or state.lastExpression with
                | none => goOn state
                | some (known, foldsCase) =>
                    let (text, isDone) :=
                      substituted known foldsCase parts isGlobal (state.pattern.length + 2)
                        occurrence none { rest := state.pattern }
                    let used := { state with lastExpression := some (known, foldsCase) }
                    if !isDone then
                      goOn used
                    else
                      let changed := { used with pattern := text, hasReplaced := true }
                      let printed := if prints then changed.sayLine text else changed
                      goOn (file.elim printed fun path => printed.writeTo path (text ++ ['\n']))

/-- Runs a script for all lines.  The first argument bounds their number; the second one says
whether the pattern is already there. -/
def runAll (isQuiet : Bool) (contents : List (Bytes × Bytes)) (commands : Array Command) :
    Nat → Bool → State → State
  | 0, _, state => state
  | fuel + 1, isKept, state =>
      let begun : Option State :=
        if isKept then
          some state
        else
          (state.advance?).map fun (line, after) =>
            { after with pattern := line, hasReplaced := false }
      match begun with
      | none => state
      | some begun =>
          match run isQuiet contents commands patience 0 begun with
          | .done after =>
              let written := if isQuiet then after else after.sayLine after.pattern
              runAll isQuiet contents commands fuel false written.flush
          | .dropped after => runAll isQuiet contents commands fuel false after.flush
          | .restarted after => runAll isQuiet contents commands fuel true after.flush
          | .ended after => after

/-- The lines of a text, with whether they end with a newline. -/
def linesOf (mark : Char) (text : Bytes) : List (Bytes × Bool) :=
  let parts := text.splitOn mark
  let whole := parts.dropLast.map fun part => (part, true)
  match parts.getLast? with
  | some (c :: rest) => whole ++ [(c :: rest, false)]
  | _ => whole

/-- How long the text of lines is. -/
def size (lines : List (Bytes × Bool)) : Nat :=
  sumOf (lines.map fun (line, isMarked) => if isMarked then line.length + 1 else line.length)

/-- How much of the standard input is not used, when so much at the end of all inputs is not. -/
def surplus (unused : Nat) : List (Bytes × Bytes) → Nat
  | [] => 0
  | (path, text) :: rest =>
      if path = ['-'] then
        min text.length (unused - sumOf (rest.map fun input => input.2.length))
      else
        surplus unused rest

/-- The options of `sed`. -/
def known : List Known :=
  [{ letter := 'e', name := "expression", takesArgument := true },
    { letter := 'f', name := "file", takesArgument := true },
    { letter := 'n', name := "quiet" }, { letter := 'N', name := "silent" },
    { letter := 'E', name := "regexp-extended" }, { letter := 'r' },
    { letter := 's', name := "separate" }, { letter := 'i', name := "in-place" },
    { letter := 'z', name := "null-data" }, { letter := 'u', name := "unbuffered" }]

/-- Reads files whose contents a script asks for; those that cannot be read are empty. -/
def readContents : List Bytes → Job (List (Bytes × Bytes))
  | [] => pure []
  | path :: rest => do
      let text ← readFile path
      let others ← readContents rest
      pure ((path, text.toOption.getD []) :: others)

/-- Writes what a script has written to files. -/
def writeFiles : List (Bytes × Bytes) → Job Unit
  | [] => pure ()
  | (path, text) :: rest => do
      match ← openPath path OpenMode.forWriting with
      | .error _ => writeFiles rest
      | .ok descriptor => do
          let _ ← writeTo descriptor text
          let _ ← Job.ask (.close descriptor)
          writeFiles rest

/-- Reads the files that are edited, as far as that is needed, and complains about those that cannot
be read.  One that cannot be read after it has been opened is the end, unless each is edited in its
place.  The answer has their names and texts and a status. -/
def readInputs (given : Given) (isEnough : Bytes → Bool) (inPlace : Bool) :
    List Bytes → Job (List (Bytes × Bytes) × Nat)
  | [] => pure ([], 0)
  | path :: rest => do
      match ← readFileUntil isEnough path with
      | .ok text => do
          let (others, status) ← readInputs given isEnough inPlace rest
          pure ((path, text) :: others, status)
      | .error errno =>
          if inPlace && errno = .isDirectory then do
            complain given (chars "couldn't edit " ++ path ++ chars ": not a regular file")
            pure ((← readInputs given isEnough inPlace rest).1, 4)
          else if errno = .isDirectory || path = ['-'] then do
            let name := if path = ['-'] then chars "stdin" else path
            complainAbout given (chars "read error on " ++ name) errno
            pure ([], 4)
          else do
            complainAbout given (chars "can't read " ++ path) errno
            let (others, status) ← readInputs given isEnough inPlace rest
            pure (others, max 2 status)

/-- Edits files in their places, one after the other. -/
def editAll (edit : Bytes → State) : Nat → List (Bytes × Bytes) → Job Nat
  | status, [] => pure status
  | status, (path, text) :: rest => do
      let state := edit text
      writeFiles [(path, state.output.reverse.flatten)]
      writeFiles state.files
      editAll edit (if state.status = 0 then status else state.status) rest

end Sed

/-- Edits the lines of files. -/
def sed (given : Given) : Job Nat :=
  let arguments := given.arguments.map fun argument =>
    match argument with
    | '-' :: 'i' :: _ => ['-', 'i']
    | argument => argument
  withChoices { given with arguments := arguments } Sed.known false 1 fun choices => do
    let (files, hasScripts) ← readFiles given (choices.arguments 'f')
    if !hasScripts then
      pure 1
    else
      let own := choices.arguments 'e' ++ files.map fun file =>
        if file.2.getLast? = some '\n' then file.2.dropLast else file.2
      let (texts, paths) : List Bytes × List Bytes :=
        if choices.has 'e' || choices.has 'f' then (own, choices.operands)
        else (choices.operands.take 1, choices.operands.drop 1)
      if texts.isEmpty then
        refuse given 1 (chars "no script")
      else
        let text := ['\n'].intercalate texts
        match Sed.script (choices.has 'E' || choices.has 'r') text with
        | .error reason =>
            refuse given 1 (chars "-e expression #1, char 0: " ++ chars reason)
        | .ok commands => do
            let isQuiet := choices.has 'n' || choices.has 'N' || (chars "#n\n").isPrefixOf text
            let named := commands.toList.filterMap fun command =>
              match command.action with
              | .readFile path => some path
              | _ => none
            let contents ← Sed.readContents named
            let mark := if choices.has 'z' then Char.ofNat 0 else '\n'
            let edit (text : Bytes) : Sed.State :=
              Sed.runAll isQuiet contents commands patience false
                { input := Sed.linesOf mark text }
            let isEnough (text : Bytes) : Bool :=
              paths.length ≤ 1 && !(edit text).input.isEmpty
            let (inputs, failure) ←
              Sed.readInputs given isEnough (choices.has 'i') (inputsOf paths)
            if choices.has 'i' then do
              let status ← Sed.editAll edit 0 inputs
              pure (if status = 0 then failure else status)
            else do
              let whole := inputs.flatMap fun input =>
                if input.2.isEmpty || input.2.getLast? = some mark then input.2
                else if (inputs.getLast?.map Prod.fst) = some input.1 then input.2
                else input.2 ++ [mark]
              let state := edit whole
              giveBack 0 (Sed.surplus (Sed.size state.input) inputs)
              let output := state.output.reverse.flatten
              let shown := output ++ ((state.files.lookup (chars "/dev/stdout")).getD [])
              Sed.writeFiles (state.files.filter fun file => file.1 ≠ chars "/dev/stdout")
              finishWith given (if state.status = 0 then failure else state.status) 4 shown

end Tool

end Cadence
