import Cadence.Tool.Basic

namespace Cadence

namespace Tool

open Host

/-!
# Tools that pass text on

They copy, cut or count what they read, in the order in which it comes.
-/

/-- Why a file is not copied to its end. -/
inductive CopyFault
  | unread (errno : Errno)
  | unwritten (errno : Errno)
  /-- What is written comes back to be read. -/
  | ownOutput

/-- Copies what is read from a descriptor to the standard output. -/
def copyThrough (descriptor : Nat) : Nat → Job (Option CopyFault)
  | 0 => pure none
  | fuel + 1 => do
      match ← Job.ask (.read descriptor 65536 false) with
      | .error errno => pure (some (.unread errno))
      | .ok [] => pure none
      | .ok piece =>
          match ← writeUntil 1 (piece.length + 1) piece with
          | some errno => pure (some (.unwritten errno))
          | none => copyThrough descriptor fuel

/-- Copies what is left of a file, unless it is the standard output itself. -/
def copyRest (output : FileStatus) (descriptor : Nat) : Job (Option CopyFault) := do
  match ← ownOutput? (some output) descriptor with
  | none => copyThrough descriptor patience
  | some status =>
      match ← Job.ask (.seek descriptor 0 .current) with
      | .error _ => copyThrough descriptor patience
      | .ok place =>
          if place < status.size then
            pure (some .ownOutput)
          else
            copyThrough descriptor patience

/-- Copies files to the standard output as they are. -/
def copyFiles (given : Given) (output : FileStatus) : Nat → List Bytes → Job Nat
  | status, [] => pure status
  | status, path :: rest => do
      match ← openInput path with
      | .error errno => do
          complainAbout given path errno
          copyFiles given output 1 rest
      | .ok descriptor => do
          let failed ← copyRest output descriptor
          closeInput path descriptor
          match failed with
          | none => copyFiles given output status rest
          | some (.unwritten errno) => refuse given 1 (chars "write error: " ++ errno.text)
          | some (.unread errno) => do
              complainAbout given path errno
              copyFiles given output 1 rest
          | some .ownOutput => do
              complain given (path ++ chars ": input file is output file")
              copyFiles given output 1 rest

/-- A number at the right end of a field. -/
def rightAligned (width : Nat) (text : Bytes) : Bytes :=
  List.replicate (width - text.length) ' ' ++ text

/-- How `cat` shows a character that cannot be seen. -/
def visible (showsTabs : Bool) (c : Char) : Bytes :=
  let rec low (n : Nat) : Bytes :=
    if n < 32 then ['^', Char.ofNat (n + 64)]
    else if n = 127 then ['^', '?']
    else [Char.ofNat n]
  let n := c.toNat
  if c = '\t' && !showsTabs then [c]
  else if n < 128 then low n
  else chars "M-" ++ low (n - 128)

/-- What `cat` does with lines. -/
structure LineStyle where
  numbers : Bool := false
  numbersText : Bool := false
  squeezes : Bool := false
  marksEnds : Bool := false
  showsTabs : Bool := false
  showsAll : Bool := false

/-- Shows lines; the arguments tell the number of the next line and whether the last one was
empty. -/
def showLines (style : LineStyle) : Nat → Bool → List Bytes → Bytes
  | _, _, [] => []
  | _, _, [[]] => []
  | number, afterEmpty, line :: rest =>
      let isEmpty := line.isEmpty && !rest.isEmpty
      if style.squeezes && isEmpty && afterEmpty then
        showLines style number true rest
      else
        let isNumbered := (style.numbers && !style.numbersText) || (style.numbersText && !isEmpty)
        let front := if isNumbered then rightAligned 6 (digits number) ++ ['\t'] else []
        let shown :=
          if style.showsAll then line.flatMap (visible style.showsTabs)
          else if style.showsTabs then
            line.flatMap fun c => if c = '\t' then ['^', 'I'] else [c]
          else line
        let ending :=
          if rest.isEmpty then [] else if style.marksEnds then ['$', '\n'] else ['\n']
        front ++ shown ++ ending ++
          showLines style (if isNumbered then number + 1 else number) isEmpty rest

/-- Writes files one after the other. -/
def cat (given : Given) : Job Nat :=
  let known : List Known :=
    [{ letter := 'n', name := "number" }, { letter := 'b', name := "number-nonblank" },
      { letter := 's', name := "squeeze-blank" }, { letter := 'E', name := "show-ends" },
      { letter := 'T', name := "show-tabs" }, { letter := 'v', name := "show-nonprinting" },
      { letter := 'A', name := "show-all" }] ++ switches "etu"
  withChoices given known false 1 fun choices => do
    let isPlain := choices.options.all fun choice => choice.letter = 'u'
    let paths := inputsOf choices.operands
    match ← Job.ask (.descriptorStatus 1) with
    | .error errno => refuse given 1 (chars "standard output: " ++ errno.text)
    | .ok output => do
        let status ←
          if isPlain then
            copyFiles given output 0 paths
          else do
            let (files, isComplete) ← readFiles given paths
            let style : LineStyle :=
              { numbers := choices.has 'n'
                numbersText := choices.has 'b'
                squeezes := choices.has 's'
                marksEnds := choices.has 'E' || choices.has 'A' || choices.has 'e'
                showsTabs := choices.has 'T' || choices.has 'A' || choices.has 't'
                showsAll :=
                  choices.has 'v' || choices.has 'A' || choices.has 'e' || choices.has 't' }
            let text := (files.map Prod.snd).flatten
            finish given (if isComplete then 0 else 1) (showLines style 1 false (text.splitOn '\n'))
        match paths.contains ['-'], ← Job.ask (.descriptorStatus 0) with
        | true, .error errno => refuse given 1 (chars "closing standard input: " ++ errno.text)
        | _, _ => pure status

/-- How much of a file is wanted. -/
structure Extent where
  countsBytes : Bool := false
  count : Nat := 10
  /-- Whether the count tells what is left out (from the other end). -/
  isRest : Bool := false

/-- The pieces of a text, with their marks. -/
def markedPieces (mark : Char) (text : Bytes) : List Bytes :=
  let parts := text.splitOn mark
  let whole := parts.dropLast.map fun part => part ++ [mark]
  match parts.getLast? with
  | some (c :: rest) => whole ++ [c :: rest]
  | _ => whole

/-- The first part of a text. -/
def Extent.front (extent : Extent) (mark : Char) (text : Bytes) : Bytes :=
  if extent.countsBytes then
    text.take (if extent.isRest then text.length - extent.count else extent.count)
  else
    let parts := markedPieces mark text
    (parts.take (if extent.isRest then parts.length - extent.count else extent.count)).flatten

/-- The last part of a text; what is left out is counted from 1. -/
def Extent.back (extent : Extent) (mark : Char) (text : Bytes) : Bytes :=
  if extent.countsBytes then
    text.drop (if extent.isRest then extent.count - 1 else text.length - extent.count)
  else
    let parts := markedPieces mark text
    (parts.drop (if extent.isRest then extent.count - 1 else parts.length - extent.count)).flatten

/-- A number with a unit. -/
def amount? (text : Bytes) : Option Nat :=
  let number := text.takeWhile Char.isDigit
  let unit : Option Nat :=
    match text.drop number.length with
    | [] => some 1
    | ['b'] => some 512
    | ['k'] | ['K'] => some 1024
    | ['M'] => some (1024 * 1024)
    | ['k', 'B'] => some 1000
    | _ => none
  match number? number, unit with
  | some value, some unit => some (value * unit)
  | _, _ => none

/-- Reads from a descriptor until there is enough for a first part. -/
def readEnough (extent : Extent) (mark : Char) (descriptor : Nat) :
    Nat → Nat → List Bytes → Job (Except Errno Bytes)
  | 0, _, pieces => pure (.ok pieces.reverse.flatten)
  | fuel + 1, wanted, pieces => do
      if wanted = 0 then
        pure (.ok pieces.reverse.flatten)
      else
        let limit := if extent.countsBytes then min wanted 8192 else 8192
        match ← Job.ask (.read descriptor limit false) with
        | .error errno => pure (.error errno)
        | .ok [] => pure (.ok pieces.reverse.flatten)
        | .ok piece =>
            let found := if extent.countsBytes then piece.length else piece.count mark
            readEnough extent mark descriptor fuel (wanted - found) (piece :: pieces)

/-- Reads the first part of a file.  What has been read beyond it is given back if that is
possible. -/
def readFront (extent : Extent) (mark : Char) (path : Bytes) : Job (Except Errno Bytes) := do
  if extent.isRest then
    match ← readFile path with
    | .error errno => pure (.error errno)
    | .ok text => do
        let front := extent.front mark text
        if path = ['-'] then
          giveBack 0 (text.length - front.length)
        pure (.ok front)
  else
    match ← openInput path with
    | .error errno => pure (.error errno)
    | .ok descriptor => do
        let text ← readEnough extent mark descriptor patience extent.count []
        let front := text.map (extent.front mark)
        giveBack descriptor
          ((text.toOption.getD []).length - (front.toOption.getD []).length)
        closeInput path descriptor
        pure front

/-- Writes parts of files, under titles. -/
def writeParts (given : Given) (hasTitles : Bool) (part : Bytes → Job (Except Errno Bytes)) :
    Bool → Nat → List Bytes → Job Nat
  | _, status, [] => pure status
  | isFirst, status, path :: rest => do
      let name := if path = ['-'] then chars "standard input" else path
      let title := chars "==> " ++ name ++ chars " <==\n"
      let front := if !hasTitles then [] else if isFirst then title else '\n' :: title
      match ← part path with
      | .ok text => do
          writeOrEnd given 1 (front ++ text)
          writeParts given hasTitles part false status rest
      | .error errno =>
          if errno = .isDirectory || path = ['-'] then do
            writeOrEnd given 1 front
            complain given (chars "error reading '" ++ name ++ chars "': " ++ errno.text)
            writeParts given hasTitles part false 1 rest
          else do
            complain given (chars "cannot open '" ++ path ++ chars "' for reading: " ++ errno.text)
            writeParts given hasTitles part isFirst 1 rest

/-- Turns an old way to give a count into an option. -/
def withCount (mayAdd : Bool) : List Bytes → List Bytes
  | ('-' :: c :: rest) :: others =>
      if c.isDigit then
        let number := (c :: rest).takeWhile Char.isDigit
        match (c :: rest).drop number.length with
        | [] => (chars "-n" ++ number) :: others
        | ['c'] => (chars "-c" ++ number) :: others
        | _ => (chars "-n" ++ number) :: others
      else
        ('-' :: c :: rest) :: others
  | ('+' :: c :: rest) :: others =>
      if mayAdd && c.isDigit then (chars "-n+" ++ c :: rest) :: others
      else ('+' :: c :: rest) :: others
  | arguments => arguments

/-- The options of `head` and `tail`. -/
def partOptions : List Known :=
  [{ letter := 'n', name := "lines", takesArgument := true },
    { letter := 'c', name := "bytes", takesArgument := true },
    { letter := 'q', name := "quiet" }, { letter := 'v', name := "verbose" },
    { letter := 'z', name := "zero-terminated" }, { letter := 'f', name := "follow" },
    { letter := 's', takesArgument := true }]

/-- The extent that options ask for. -/
def extentOf (choices : Choices) (restMark : Char) : Except Bytes Extent :=
  match choices.options.filter (fun choice => choice.letter = 'n' || choice.letter = 'c')
      |>.getLast? with
  | none => .ok {}
  | some choice =>
      let countsBytes := choice.letter = 'c'
      let (isRest, text) : Bool × Bytes :=
        match choice.argument with
        | '-' :: text => (restMark = '-', text)
        | '+' :: text => (restMark = '+', text)
        | text => (false, text)
      match amount? text with
      | some count => .ok { countsBytes := countsBytes, count := count, isRest := isRest }
      | none =>
          .error (chars (if countsBytes then "invalid number of bytes: '"
            else "invalid number of lines: '") ++ choice.argument ++ ['\''])

/-- Writes the first parts of files. -/
def head (given : Given) : Job Nat :=
  let counted := { given with arguments := withCount false given.arguments }
  withChoices counted partOptions false 1 fun choices => do
    match extentOf choices '-' with
    | .error reason => refuse given 1 reason
    | .ok extent => do
        let mark := if choices.has 'z' then Char.ofNat 0 else '\n'
        let paths := inputsOf choices.operands
        let hasTitles := choices.has 'v' || (1 < paths.length && !choices.has 'q')
        writeParts given hasTitles (readFront extent mark) true 0 paths

/-- Writes the last parts of files. -/
def tail (given : Given) : Job Nat :=
  let counted := { given with arguments := withCount true given.arguments }
  withChoices counted partOptions false 1 fun choices => do
    match extentOf choices '+' with
    | .error reason => refuse given 1 reason
    | .ok extent => do
        let mark := if choices.has 'z' then Char.ofNat 0 else '\n'
        let paths := inputsOf choices.operands
        let hasTitles := choices.has 'v' || (1 < paths.length && !choices.has 'q')
        let part (path : Bytes) : Job (Except Errno Bytes) := do
          match ← readFile path with
          | .error errno => pure (.error errno)
          | .ok text => pure (.ok (extent.back mark text))
        writeParts given hasTitles part true 0 paths

/-- What is counted in a text. -/
structure Counts where
  lines : Nat := 0
  words : Nat := 0
  bytes : Nat := 0
  longest : Nat := 0

/-- Counts a text. -/
def Counts.ofText (text : Bytes) : Counts :=
  let isBlank (c : Char) : Bool :=
    c = ' ' || c = '\n' || c = '\t' || c = '\r' || c.toNat = 11 || c.toNat = 12
  { lines := text.count '\n'
    words := ((text.splitOnP isBlank).filter fun word => !word.isEmpty).length
    bytes := text.length
    longest := ((text.splitOn '\n').map List.length).foldl max 0 }

/-- The counts of two texts together. -/
def Counts.add (first second : Counts) : Counts :=
  { lines := first.lines + second.lines
    words := first.words + second.words
    bytes := first.bytes + second.bytes
    longest := max first.longest second.longest }

/-- How wide the columns are that show the counts of files: as wide as the size of all of them, but
at least 7 if the size of one cannot be known. -/
def columnWidth (paths : List Bytes) : Job Nat := do
  let rec sizes : List Bytes → Job (List (Option FileStatus))
    | [] => pure []
    | path :: rest => do
        let status ←
          if path = ['-'] then Job.ask (.descriptorStatus 0) else Job.ask (.status path true)
        pure (status.toOption :: (← sizes rest))
  match ← sizes paths with
  | none :: _ => pure 1
  | known =>
      let found := known.filterMap id
      let (regular, others) := found.partition fun status => status.kind = .regular
      let width := (digits (sumOf (regular.map FileStatus.size))).length
      pure (if others.isEmpty then width else max 7 width)

/-- Counts files, and complains about those that cannot be read; what cannot be read after it has
been opened counts as empty. -/
def countFiles (given : Given) : List Bytes → Job (List (Bytes × Counts) × Bool)
  | [] => pure ([], true)
  | path :: rest => do
      match ← readFile path with
      | .ok text => do
          let (others, isComplete) ← countFiles given rest
          pure ((path, Counts.ofText text) :: others, isComplete)
      | .error errno => do
          complainAbout given path errno
          let (others, _) ← countFiles given rest
          let isOpen := errno = .isDirectory || path = ['-']
          pure (if isOpen then (path, {}) :: others else others, false)

/-- Counts the lines, words and bytes of files. -/
def wc (given : Given) : Job Nat :=
  let known : List Known :=
    [{ letter := 'l', name := "lines" }, { letter := 'w', name := "words" },
      { letter := 'c', name := "bytes" }, { letter := 'm', name := "chars" },
      { letter := 'L', name := "max-line-length" }]
  withChoices given known false 1 fun choices => do
    let paths := inputsOf choices.operands
    let columns ← columnWidth paths
    let (counted, isComplete) ← countFiles given paths
    let isAll := choices.options.isEmpty
    let parts (counts : Counts) : List Nat :=
      (if isAll || choices.has 'l' then [counts.lines] else []) ++
        (if isAll || choices.has 'w' then [counts.words] else []) ++
        (if choices.has 'm' then [counts.bytes] else []) ++
        (if isAll || choices.has 'c' then [counts.bytes] else []) ++
        (if choices.has 'L' then [counts.longest] else [])
    let isSingle := paths.length = 1 && (parts {}).length = 1
    let line (counts : Counts) (name : Bytes) : Bytes :=
      let columns := (parts counts).map fun value =>
        rightAligned (if isSingle then 1 else columns) (digits value)
      [' '].intercalate columns ++ (if name.isEmpty then [] else ' ' :: name) ++ ['\n']
    let shown := counted.flatMap fun (path, counts) =>
      line counts (if choices.operands.isEmpty then [] else path)
    let total := (counted.map Prod.snd).foldl Counts.add {}
    let sum := if 1 < paths.length then line total (chars "total") else []
    finish given (if isComplete then 0 else 1) (shown ++ sum)

/-- Opens the files of `tee`; the answer has their descriptors and whether all could be opened. -/
def openOutputs (given : Given) (appends : Bool) : List Bytes → Job (List Nat × Bool)
  | [] => pure ([], true)
  | path :: rest => do
      let opened ← openPath path (if appends then OpenMode.forAppending else OpenMode.forWriting)
      let (others, isComplete) ← openOutputs given appends rest
      match opened with
      | .ok descriptor => pure (descriptor :: others, isComplete)
      | .error errno => do
          complainAbout given path errno
          pure (others, false)

/-- Writes a text to some descriptors; the answer is whether that went well everywhere. -/
def writeToAll (given : Given) (text : Bytes) : List Nat → Job Bool
  | [] => pure true
  | descriptor :: rest => do
      let refusal ← writeUntil descriptor (text.length + 1) text
      match refusal with
      | none => pure ()
      | some errno =>
          let name := if descriptor = 1 then chars "'standard output'" else digits descriptor
          complain given (name ++ chars ": " ++ errno.text)
      let others ← writeToAll given text rest
      pure (refusal.isNone && others)

/-- Copies the standard input to some descriptors. -/
def copyToAll (given : Given) (descriptors : List Nat) : Nat → Bool → Job Bool
  | 0, isWell => pure isWell
  | fuel + 1, isWell => do
      match ← Job.ask (.read 0 65536 false) with
      | .error errno => do
          complain given (chars "read error: " ++ errno.text)
          pure false
      | .ok [] => pure isWell
      | .ok piece => do
          let isWritten ← writeToAll given piece descriptors
          copyToAll given descriptors fuel (isWell && isWritten)

/-- Copies the standard input to the standard output and to files. -/
def tee (given : Given) : Job Nat :=
  let known : List Known :=
    [{ letter := 'a', name := "append" }, { letter := 'i', name := "ignore-interrupts" },
      { letter := 'p' }]
  withChoices given known false 1 fun choices => do
    let (outputs, isComplete) ← openOutputs given (choices.has 'a') choices.operands
    let isWell ← copyToAll given (1 :: outputs) patience true
    pure (if isComplete && isWell then 0 else 1)

/-- Writes a line again and again. -/
def repeatLine (given : Given) (block : Bytes) : Nat → Job Nat
  | 0 => pure 0
  | fuel + 1 => do
      match ← writeUntil 1 (block.length + 1) block with
      | none => repeatLine given block fuel
      | some errno => refuse given 1 (chars "standard output: " ++ errno.text)

/-- Writes a line until nobody reads it any more. -/
def yes (given : Given) : Job Nat :=
  let words := given.arguments.filter fun word => word ≠ ['-', '-']
  let line := (if words.isEmpty then ['y'] else [' '].intercalate words) ++ ['\n']
  let block := (List.replicate (8192 / line.length + 1) line).flatten
  repeatLine given block patience

/-- Writes the lines of files from the last to the first. -/
def tac (given : Given) : Job Nat :=
  withChoices given [] false 1 fun choices => do
    let paths := inputsOf choices.operands
    /- A file is read from its start, wherever the standard input is in it. -/
    if paths.contains ['-'] then
      let _ ← Job.ask (.seek 0 0 .start)
    let (files, isComplete) ← readFiles given paths
    let text := files.flatMap fun file => (markedPieces '\n' file.2).reverse.flatten
    finish given (if isComplete then 0 else 1) text

/-- Writes lines from their ends to their beginnings. -/
def rev (given : Given) : Job Nat :=
  withChoices given [] false 1 fun choices => do
    let (files, isComplete) ← readFiles given (inputsOf choices.operands)
    let text := files.flatMap fun file =>
      ['\n'].intercalate ((file.2.splitOn '\n').map List.reverse)
    finish given (if isComplete then 0 else 1) text

/-- Numbers lines. -/
def nl (given : Given) : Job Nat :=
  let known : List Known :=
    [{ letter := 'b', takesArgument := true }, { letter := 'w', takesArgument := true },
      { letter := 's', takesArgument := true }, { letter := 'v', takesArgument := true },
      { letter := 'n', takesArgument := true }]
  withChoices given known false 1 fun choices => do
    let (files, isComplete) ← readFiles given (inputsOf choices.operands)
    let width := ((choices.argument? 'w').bind number?).getD 6
    let mark := (choices.argument? 's').getD ['\t']
    let isAll := choices.argument? 'b' = some ['a']
    let rec number (next : Nat) : List Bytes → Bytes
      | [] => []
      | line :: rest =>
          if line.isEmpty && !isAll then
            List.replicate (width + mark.length) ' ' ++ '\n' :: number next rest
          else
            rightAligned width (digits next) ++ mark ++ line ++ '\n' :: number (next + 1) rest
    let start := ((choices.argument? 'v').bind number?).getD 1
    finish given (if isComplete then 0 else 1)
      (number start (files.flatMap fun file => lines file.2))

/-- Breaks lines that are too long. -/
def fold (given : Given) : Job Nat :=
  let known : List Known :=
    [{ letter := 'w', name := "width", takesArgument := true }, { letter := 'b' },
      { letter := 's', name := "spaces" }]
  withChoices given known false 1 fun choices => do
    let (files, isComplete) ← readFiles given (inputsOf choices.operands)
    match ((choices.argument? 'w').map number?).getD (some 80) with
    | none | some 0 => refuse given 1 (chars "invalid number of columns")
    | some width =>
        let rec broken : Nat → Bytes → Bytes
          | 0, line => line
          | fuel + 1, line =>
              if line.length ≤ width then line
              else
                let piece := line.take width
                let blank := (piece.reverse.dropWhile (· ≠ ' ')).length
                let cut := if choices.has 's' && blank ≠ 0 then blank else width
                line.take cut ++ '\n' :: broken fuel (line.drop cut)
        let text := files.flatMap fun file =>
          ['\n'].intercalate ((file.2.splitOn '\n').map fun line => broken (line.length + 1) line)
        finish given (if isComplete then 0 else 1) text

/-- Puts the lines of files side by side. -/
def paste (given : Given) : Job Nat :=
  let known : List Known :=
    [{ letter := 'd', name := "delimiters", takesArgument := true },
      { letter := 's', name := "serial" }]
  withChoices given known false 1 fun choices => do
    let (files, isComplete) ← readFiles given (inputsOf choices.operands)
    let columns := files.map fun file => lines file.2
    let marks := (choices.argument? 'd').getD ['\t']
    let rec joined (index : Nat) : List Bytes → Bytes
      | [] => []
      | [last] => last
      | word :: rest =>
          let mark := marks[index % max marks.length 1]?
          word ++ mark.toList ++ joined (index + 1) rest
    let text :=
      if choices.has 's' then
        columns.flatMap fun column => joined 0 column ++ ['\n']
      else
        let height := (columns.map List.length).foldl max 0
        (List.range height).flatMap fun row =>
          joined 0 (columns.map fun column => column.getD row []) ++ ['\n']
    finish given (if isComplete then 0 else 1) text

/-- A number in a base, with so many digits. -/
def inBase (base width value : Nat) : Bytes :=
  let text := Nat.toDigits base value
  List.replicate (width - text.length) '0' ++ text

/-- How `od` shows a character. -/
def odCharacter (c : Char) : Bytes :=
  match c.toNat with
  | 0 => chars "\\0"
  | 7 => chars "\\a"
  | 8 => chars "\\b"
  | 9 => chars "\\t"
  | 10 => chars "\\n"
  | 11 => chars "\\v"
  | 12 => chars "\\f"
  | 13 => chars "\\r"
  | n => if n < 32 || 126 < n then inBase 8 3 n else [c]

/-- Shows the bytes of files. -/
def od (given : Given) : Job Nat :=
  let known : List Known :=
    [{ letter := 'A', takesArgument := true }, { letter := 't', takesArgument := true },
      { letter := 'N', takesArgument := true }, { letter := 'j', takesArgument := true }] ++
      switches "vcxbdo"
  withChoices given known false 1 fun choices => do
    let amount := (choices.argument? 'N').bind amount?
    let skipped := ((choices.argument? 'j').bind amount?).getD 0
    let read : Except Bytes (Bytes × Bool) ←
      match amount, inputsOf choices.operands with
      | some count, [path] => do
          let extent : Extent := { countsBytes := true, count := skipped + count }
          match ← readFront extent '\n' path with
          | .ok text => pure (.ok (text, true))
          | .error errno => pure (.error (path ++ chars ": " ++ errno.text))
      | _, paths => do
          let (files, isComplete) ← readFiles given paths
          let whole := (files.map Prod.snd).flatten
          pure (.ok (whole.take (amount.elim whole.length (skipped + ·)), isComplete))
    match read with
    | .error reason => refuse given 1 reason
    | .ok (whole, isComplete) =>
    let text := whole.drop skipped
    let kind : Bytes :=
      if choices.has 'c' then ['c']
      else if choices.has 'b' then chars "o1"
      else if choices.has 'x' then chars "x2"
      else if choices.has 'd' then chars "u2"
      else (choices.argument? 't').getD (chars "o2")
    let size := if kind = ['c'] then 1 else ((number? (kind.drop 1)).getD 4)
    let values (row : Bytes) : List Nat :=
      (List.range ((row.length + size - 1) / size)).map fun index =>
        ((row.drop (index * size)).take size).foldr (fun c value => 256 * value + c.toNat) 0
    let shown (row : Bytes) : Bytes :=
      match kind with
      | ['c'] => row.flatMap fun c => rightAligned 4 (odCharacter c)
      | 'x' :: _ => (values row).flatMap fun value => ' ' :: inBase 16 (2 * size) value
      | 'u' :: _ | 'd' :: _ =>
          (values row).flatMap fun value =>
            rightAligned (if size = 1 then 4 else if size = 2 then 6 else 11) (digits value)
      | _ =>
          (values row).flatMap fun value =>
            ' ' :: inBase 8 (if size = 1 then 3 else if size = 2 then 6 else 11) value
    let address (offset : Nat) : Bytes :=
      match choices.argument? 'A' with
      | some ['n'] => []
      | some ['d'] => inBase 10 7 offset
      | some ['x'] => inBase 16 6 offset
      | _ => inBase 8 7 offset
    let rec rows (offset : Nat) (last : Bytes) (isMarked : Bool) : Nat → Bytes → Bytes
      | 0, _ => []
      | fuel + 1, rest =>
          if rest.isEmpty then
            if choices.argument? 'A' = some ['n'] then [] else address offset ++ ['\n']
          else
            let row := rest.take 16
            let after := offset + row.length
            if row = last && row.length = 16 && !choices.has 'v' then
              (if isMarked then [] else ['*', '\n']) ++ rows after last true fuel (rest.drop 16)
            else
              address offset ++ shown row ++ '\n' :: rows after row false fuel (rest.drop 16)
    finish given (if isComplete then 0 else 1) (rows skipped [] false (text.length + 2) text)

end Tool

end Cadence
