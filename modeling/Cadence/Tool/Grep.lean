import Cadence.Tool.Fields
import Cadence.Tool.Regex
import Cadence.Tool.Streams

namespace Cadence

namespace Tool

open Host

/-!
# Searching for patterns

`grep` chooses the lines that match one of some patterns.
-/

namespace Grep

/-- What is searched for, and how it is shown. -/
structure Search where
  expressions : List Regex
  foldsCase : Bool
  isNegated : Bool
  /-- A match must be a whole word, or a whole line. -/
  wholeWords : Bool
  wholeLines : Bool

/-- Whether a match is a whole word. -/
def isWord (place : Regex.Place) (found : Regex.Found) : Bool :=
  !place.before.any isWordCharacter && !found.stop.rest.head?.any isWordCharacter

/-- The first match of an expression in a line from a place on.  The first argument bounds the
number of tries. -/
def firstMatch (search : Search) (expression : Regex) :
    Nat → Regex.Place → Option (Regex.Place × Regex.Found)
  | 0, _ => none
  | fuel + 1, place =>
      match Regex.search expression search.foldsCase place.position place.before place.rest with
      | none => none
      | some (start, found) =>
          if search.wholeLines then
            if start.position = 0 && found.stop.rest.isEmpty then some (start, found) else none
          else if search.wholeWords && !isWord start found then
            match start.rest with
            | [] => none
            | c :: rest => firstMatch search expression fuel ⟨start.position + 1, some c, rest⟩
          else
            some (start, found)

/-- The first and longest match in a line from a place on. -/
def firstOf (search : Search) (place : Regex.Place) : Option (Regex.Place × Regex.Found) :=
  (search.expressions.filterMap fun expression =>
    firstMatch search expression (place.rest.length + 1) place).foldl
    (fun best next =>
      match best with
      | none => some next
      | some best =>
          if next.1.position < best.1.position ||
              (next.1.position = best.1.position &&
                best.2.stop.position < next.2.stop.position) then
            some next
          else
            some best)
    none

/-- Whether a line is chosen. -/
def chooses (search : Search) (line : Bytes) : Bool :=
  (firstOf search { rest := line }).isSome != search.isNegated

/-- The parts of a line that match. -/
def parts (search : Search) : Nat → Regex.Place → List Bytes
  | 0, _ => []
  | fuel + 1, place =>
      match firstOf search place with
      | none => []
      | some (start, found) =>
          if found.stop.position = start.position then
            match start.rest with
            | [] => []
            | c :: rest => parts search fuel ⟨start.position + 1, some c, rest⟩
          else
            Regex.between start found.stop :: parts search fuel found.stop

/-- What is written about files. -/
structure Display where
  counts : Bool := false
  isQuiet : Bool := false
  namesMatching : Bool := false
  namesOthers : Bool := false
  hasNames : Bool := false
  hasNumbers : Bool := false
  onlyParts : Bool := false
  most : Option Nat := none
  before : Nat := 0
  after : Nat := 0

/-- The lines that are shown around those that are chosen: each with its number and whether it is
chosen. -/
def around (display : Display) (chosen : List (Nat × Bytes)) (all : Array Bytes) :
    List (Nat × Bytes × Bool) :=
  let isChosen (index : Nat) : Bool := chosen.any fun entry => entry.1 = index
  let isNear (index : Nat) : Bool :=
    chosen.any fun entry =>
      entry.1 ≤ index + display.before && index ≤ entry.1 + display.after
  ((List.range all.size).filter isNear).map fun index =>
    (index, all.getD index [], isChosen index)

/-- What is written about a file, and whether it has been chosen. -/
def report (search : Search) (display : Display) (name text : Bytes) : Bytes × Bool :=
  let all := (lines text).toArray
  let matching := (all.toList.zip (List.range all.size)).filterMap fun (line, index) =>
    if chooses search line then some (index, line) else none
  let chosen := (display.most.map fun most => matching.take most).getD matching
  let isFound := !chosen.isEmpty
  let front (mark : Char) : Bytes := if display.hasNames then name ++ [mark] else []
  if display.isQuiet then
    ([], isFound)
  else if display.namesMatching then
    (if isFound then name ++ ['\n'] else [], isFound)
  else if display.namesOthers then
    (if isFound then [] else name ++ ['\n'], isFound)
  else if display.counts then
    (front ':' ++ digits chosen.length ++ ['\n'], isFound)
  else if display.onlyParts then
    let shown := chosen.flatMap fun (index, line) =>
      (parts search (line.length + 1) { rest := line }).flatMap fun part =>
        front ':' ++ (if display.hasNumbers then digits (index + 1) ++ [':'] else []) ++ part ++
          ['\n']
    (if search.isNegated then [] else shown, isFound)
  else
    let entries :=
      if display.before = 0 && display.after = 0 then
        chosen.map fun (index, line) => (index, line, true)
      else
        around display chosen all
    let isWide := display.before ≠ 0 || display.after ≠ 0
    let rec shown (last : Option Nat) : List (Nat × Bytes × Bool) → Bytes
      | [] => []
      | (index, line, isChosen) :: rest =>
          let mark := if isChosen then ':' else '-'
          let gap := if isWide && last.any (· + 1 < index) then chars "--\n" else []
          gap ++ front mark ++ (if display.hasNumbers then digits (index + 1) ++ [mark] else []) ++
            line ++ '\n' :: shown (some index) rest
    (shown none entries, isFound)

/-- The options of `grep`. -/
def known : List Known :=
  [{ letter := 'e', name := "regexp", takesArgument := true },
    { letter := 'f', name := "file", takesArgument := true },
    { letter := 'm', name := "max-count", takesArgument := true },
    { letter := 'A', name := "after-context", takesArgument := true },
    { letter := 'B', name := "before-context", takesArgument := true },
    { letter := 'C', name := "context", takesArgument := true },
    { letter := 'i', name := "ignore-case" }, { letter := 'y' },
    { letter := 'v', name := "invert-match" }, { letter := 'w', name := "word-regexp" },
    { letter := 'x', name := "line-regexp" }, { letter := 'c', name := "count" },
    { letter := 'l', name := "files-with-matches" },
    { letter := 'L', name := "files-without-match" }, { letter := 'q', name := "quiet" },
    { letter := 'S', name := "silent" }, { letter := 's', name := "no-messages" },
    { letter := 'o', name := "only-matching" }, { letter := 'n', name := "line-number" },
    { letter := 'h', name := "no-filename" }, { letter := 'H', name := "with-filename" },
    { letter := 'E', name := "extended-regexp" }, { letter := 'F', name := "fixed-strings" },
    { letter := 'G', name := "basic-regexp" }, { letter := 'P', name := "perl-regexp" },
    { letter := 'a', name := "text" }, { letter := 'z', name := "null-data" },
    { letter := 'r', name := "recursive" }, { letter := 'U' }]

/-- The expression of a text in which nothing is special. -/
def fixed (dialect : Dialect) (text : Bytes) : Regex :=
  text.foldr (fun c rest => .sequence (Regex.literal dialect c) rest) .nothing

/-- Whether the front of a text decides what is written about the whole. -/
def isDecided (search : Search) (display : Display) (text : Bytes) : Bool :=
  let whole := (lines text).dropLast
  if display.isQuiet || display.namesMatching then
    whole.any (chooses search)
  else
    display.most.any fun most => most ≤ whole.countP (chooses search)

/-- How much of a text is behind the line with which the search of it ends. -/
def surplus (search : Search) (most : Nat) : Nat → List Bytes → Nat
  | _, [] => 0
  | found, piece :: rest =>
      if most ≤ found then
        (piece :: rest).flatten.length
      else
        let line := if piece.getLast? = some '\n' then piece.dropLast else piece
        surplus search most (if chooses search line then found + 1 else found) rest

/-- Whether lines are written, so that a search of the standard output would have no end. -/
def Display.writesLines (display : Display) : Bool :=
  !display.isQuiet && !display.counts && !display.namesMatching && !display.namesOthers &&
    display.most.all (1 < ·)

/-- Why a file is not searched. -/
inductive InputFault
  | unread (errno : Errno)
  /-- What is written comes back to be read. -/
  | ownOutput

/-- Reads a file that is searched, as far as that is needed. -/
def readInput (search : Search) (display : Display) (output : Option FileStatus) (path : Bytes) :
    Job (Except InputFault Bytes) := do
  match ← openInput path with
  | .error errno => pure (.error (.unread errno))
  | .ok descriptor => do
      let isOwn := (← ownOutput? output descriptor).isSome && display.writesLines
      let text ←
        if isOwn then
          pure (.error .ownOutput)
        else
          match ← readUntil (isDecided search display) descriptor patience 0 65536 [] with
          | .error errno => pure (.error (.unread errno))
          | .ok text => pure (.ok text)
      match display.most, text with
      | some most, .ok text =>
          if !display.isQuiet && !display.namesMatching then
            giveBack descriptor (surplus search most 0 (markedPieces '\n' text))
      | _, _ => pure ()
      closeInput path descriptor
      pure text

/-- Searches files; the status tells whether something was found. -/
def searchFiles (given : Given) (search : Search) (display : Display)
    (output : Option FileStatus) (isSilent : Bool) :
    Bool → Bool → List Bytes → Job Nat
  | isFound, hasFailed, [] => pure (if hasFailed then 2 else if isFound then 0 else 1)
  | isFound, hasFailed, path :: rest => do
      let name := if path = ['-'] then chars "(standard input)" else path
      match ← readInput search display output path with
      | .error fault => do
          match fault with
          | .unread errno => if !isSilent then complainAbout given name errno
          | .ownOutput => complain given (name ++ chars ": input file is also the output")
          searchFiles given search display output isSilent isFound true rest
      | .ok text => do
          let (shown, found) := report search display name text
          writeOrEnd given 2 shown
          if found && display.isQuiet then
            pure 0
          else
            let counts := if display.namesOthers then !found else found
            searchFiles given search display output isSilent (isFound || counts) hasFailed rest

end Grep

/-- Writes the lines that match patterns. -/
def grep (isExtended isFixed : Bool) (given : Given) : Job Nat :=
  let arguments := given.arguments.map fun argument =>
    match argument with
    | '-' :: c :: rest => if (c :: rest).all Char.isDigit then chars "-C" ++ c :: rest else argument
    | argument => argument
  withChoices { given with arguments := arguments } Grep.known false 2 fun choices => do
    let kind := choices.last? ['E', 'F', 'G', 'P']
    let isFixed := if kind.isSome then kind = some 'F' else isFixed
    let isExtended := if kind.isSome then kind = some 'E' || kind = some 'P' else isExtended
    let dialect : Dialect :=
      { isExtended := isExtended, foldsCase := choices.has 'i' || choices.has 'y' }
    let rec fromFiles : List Bytes → Job (Except (Bytes × Errno) (List Bytes))
      | [] => pure (.ok [])
      | path :: rest => do
          match ← readFile path with
          | .error errno => pure (.error (path, errno))
          | .ok text => do
              match ← fromFiles rest with
              | .error reason => pure (.error reason)
              | .ok others => pure (.ok (lines text ++ others))
    match ← fromFiles (choices.arguments 'f') with
    | .error (path, errno) => do
        complainAbout given path errno
        pure 2
    | .ok read =>
        let named := (choices.arguments 'e').flatMap fun text => text.splitOn '\n'
        let (patterns, paths) : Option (List Bytes) × List Bytes :=
          if choices.has 'e' || choices.has 'f' then
            (some (named ++ read), choices.operands)
          else
            match choices.operands with
            | [] => (none, [])
            | pattern :: paths => (some (pattern.splitOn '\n'), paths)
        match patterns with
        | none => do
            let usage := chars ("Usage: grep [OPTION]... PATTERNS [FILE]...\n" ++
              "Try 'grep --help' for more information.\n")
            let _ ← writeTo 2 usage
            pure 2
        | some patterns =>
            let expressions : Except String (List Regex) :=
              patterns.mapM fun text =>
                if isFixed then
                  .ok (Grep.fixed dialect text)
                else
                  (Regex.ofText dialect text).map fun (expression, _) =>
                    if choices.has 'x' then
                      .sequence (.sequence .lineStart expression) .lineStop
                    else
                      expression
            match expressions with
            | .error reason => refuse given 2 (chars reason)
            | .ok expressions => do
                let count (letter : Char) : Option Nat := (choices.argument? letter).bind number?
                let search : Grep.Search :=
                  { expressions := expressions
                    foldsCase := dialect.foldsCase
                    isNegated := choices.has 'v'
                    wholeWords := choices.has 'w'
                    wholeLines := choices.has 'x' }
                let inputs := inputsOf paths
                let display : Grep.Display :=
                  { counts := choices.has 'c'
                    isQuiet := choices.has 'q' || choices.has 'S'
                    namesMatching := choices.has 'l'
                    namesOthers := choices.has 'L'
                    hasNames :=
                      match choices.last? ['h', 'H'] with
                      | some 'H' => true
                      | some _ => false
                      | none => 1 < inputs.length
                    hasNumbers := choices.has 'n'
                    onlyParts := choices.has 'o'
                    most := count 'm'
                    before := ((count 'B').or (count 'C')).getD 0
                    after := ((count 'A').or (count 'C')).getD 0 }
                let output := (← Job.ask (.descriptorStatus 1)).toOption
                Grep.searchFiles given search display output (choices.has 's') false false inputs

end Tool

end Cadence
