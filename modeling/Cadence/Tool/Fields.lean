import Cadence.Tool.Basic
import Cadence.Shell.Pattern

namespace Cadence

namespace Tool

open Host

/-!
# Tools that rearrange text

They translate characters, cut fields out of lines, sort lines and compare
neighbours.
-/

/-- The member of a set of characters that an escape stands for, and the rest. -/
def escapedCharacter : Bytes → Char × Bytes
  | [] => ('\\', [])
  | c :: rest =>
      match c with
      | 'n' => ('\n', rest)
      | 't' => ('\t', rest)
      | 'r' => ('\r', rest)
      | 'a' => (Char.ofNat 7, rest)
      | 'b' => (Char.ofNat 8, rest)
      | 'f' => (Char.ofNat 12, rest)
      | 'v' => (Char.ofNat 11, rest)
      | c =>
          if '0' ≤ c && c ≤ '7' then
            let octal := ((c :: rest).take 3).takeWhile fun c => '0' ≤ c && c ≤ '7'
            let value := octal.foldl (fun value c => 8 * value + (c.toNat - '0'.toNat)) 0
            (Char.ofNat (value % 256), (c :: rest).drop octal.length)
          else
            (c, rest)

/-- All bytes. -/
def allBytes : Bytes :=
  (List.range 256).map Char.ofNat

/-- A part of a set of characters: members, or one that fills up the set. -/
inductive SetPart
  | members (characters : Bytes)
  | filler (c : Char)

/-- The parts of a set of characters.  The first argument bounds its length. -/
def setParts : Nat → Bytes → List SetPart
  | 0, _ => []
  | _, [] => []
  | fuel + 1, '[' :: ':' :: rest =>
      let name := rest.takeWhile (· ≠ ':')
      match rest.drop name.length, Shell.Pattern.classes.lookup (String.ofList name) with
      | ':' :: ']' :: after, some holds =>
          .members (allBytes.filter holds) :: setParts fuel after
      | _, _ => .members ['['] :: setParts fuel (':' :: rest)
  | fuel + 1, '[' :: c :: '*' :: rest =>
      let count := rest.takeWhile Char.isDigit
      match rest.drop count.length with
      | ']' :: after =>
          match number? count with
          | none | some 0 => .filler c :: setParts fuel after
          | some count => .members (List.replicate count c) :: setParts fuel after
      | _ => .members ['['] :: setParts fuel (c :: '*' :: rest)
  | fuel + 1, c :: rest =>
      let (first, afterFirst) := if c = '\\' then escapedCharacter rest else (c, rest)
      match afterFirst with
      | '-' :: d :: others =>
          let (last, after) := if d = '\\' then escapedCharacter others else (d, others)
          let span := (List.range (last.toNat + 1 - first.toNat)).map fun step =>
            Char.ofNat (first.toNat + step)
          .members span :: setParts fuel after
      | after => .members [first] :: setParts fuel after

/-- The characters of a set, filled up to a length. -/
def setMembers (length : Nat) (text : Bytes) : Bytes :=
  let parts := setParts (text.length + 1) text
  let known := sumOf (parts.map fun part =>
    match part with
    | .members characters => characters.length
    | .filler _ => 0)
  parts.flatMap fun part =>
    match part with
    | .members characters => characters
    | .filler c => List.replicate (length - known) c

/-- A text with runs of some characters squeezed to one. -/
def squeeze (squeezed : Char → Bool) : Option Char → Bytes → Bytes
  | _, [] => []
  | last, c :: rest =>
      if squeezed c && last = some c then squeeze squeezed last rest
      else c :: squeeze squeezed (some c) rest

/-- A tool that passes its input on writes as soon as it has so many bytes. -/
def blockSize : Nat := 4096

/-- Translates the standard input piece by piece.  The arguments tell the last character that has
been made and what is not written yet. -/
def translate (given : Given) (change : Option Char → Bytes → Bytes) :
    Nat → Option Char → Bytes → Job Nat
  | 0, _, held => finish given 0 held
  | fuel + 1, last, held => do
      match ← Job.ask (.read 0 65536 false) with
      | .error errno => do
          let _ ← write held
          refuse given 1 (chars "read error: " ++ errno.text)
      | .ok [] => finish given 0 held
      | .ok piece =>
          let changed := change last piece
          let held := held ++ changed
          let last := changed.getLast?.or last
          if held.length < blockSize then
            translate given change fuel last held
          else
            match ← writeUntil 1 (held.length + 1) held with
            | none => translate given change fuel last []
            | some errno => refuse given 1 (chars "write error: " ++ errno.text)

/-- Translates, squeezes or deletes characters. -/
def tr (given : Given) : Job Nat :=
  let known : List Known :=
    [{ letter := 'c', name := "complement" }, { letter := 'C' },
      { letter := 'd', name := "delete" }, { letter := 's', name := "squeeze-repeats" },
      { letter := 't', name := "truncate-set1" }]
  withChoices given known true 1 fun choices => do
    let deletes := choices.has 'd'
    let squeezes := choices.has 's'
    let isComplement := choices.has 'c' || choices.has 'C'
    let needed := if deletes = squeezes then 2 else 1
    let allowed := if deletes && !squeezes then 1 else 2
    match choices.operands with
    | [] => misuse given 1 (chars "missing operand")
    | first :: others =>
        if choices.operands.length < needed then
          misuse given 1 (chars "missing operand after '" ++ first ++ ['\''])
        else if allowed < choices.operands.length then
          refuse given 1
            (chars "extra operand '" ++ choices.operands.getD allowed [] ++ ['\''])
        else
          let named := setMembers 0 first
          let chosen := if isComplement then allBytes.filter fun c => !named.contains c else named
          let second := others.head?.map fun text => setMembers chosen.length text
          let isChosen (c : Char) : Bool := chosen.contains c
          match second with
          | some [] =>
              if deletes then
                translate given (fun _ text => text.filter fun c => !isChosen c) patience none []
              else
                refuse given 1 (chars "when not truncating set1, string2 must be non-empty")
          | second =>
              let target := (second.getD []).toArray
              let filler := target.back?.getD ' '
              let pairs := chosen.toArray.mapIdx fun index c =>
                (c, target.getD index filler)
              let table : Array Char := pairs.foldl
                (fun table (c, replacement) => table.setIfInBounds c.toNat replacement)
                allBytes.toArray
              let mapped (c : Char) : Char := table.getD c.toNat c
              let isSqueezed (c : Char) : Bool :=
                match second with
                | some set => set.contains c
                | none => isChosen c
              let change (last : Option Char) (text : Bytes) : Bytes :=
                if deletes then
                  let kept := text.filter fun c => !isChosen c
                  if squeezes then squeeze isSqueezed last kept else kept
                else
                  let changed := if second.isSome then text.map mapped else text
                  if squeezes then squeeze isSqueezed last changed else changed
              translate given change patience none []

/-- The ranges of a list of positions. -/
def ranges (text : Bytes) : Option (List (Nat × Option Nat)) :=
  (text.splitOn ',').mapM fun part =>
    match part.splitOn '-' with
    | [single] => (number? single).bind fun position =>
        if position = 0 then none else some (position, some position)
    | [first, last] =>
        if first.isEmpty && last.isEmpty then
          none
        else
          let start := if first.isEmpty then some 1 else number? first
          let stop := if last.isEmpty then some none else (number? last).map some
          match start, stop with
          | some start, some stop =>
              if start = 0 || stop.any (· < start) then none else some (start, stop)
          | _, _ => none
    | _ => none

/-- Cuts bytes or fields out of lines. -/
def cut (given : Given) : Job Nat :=
  let known : List Known :=
    [{ letter := 'b', name := "bytes", takesArgument := true },
      { letter := 'c', name := "characters", takesArgument := true },
      { letter := 'f', name := "fields", takesArgument := true },
      { letter := 'd', name := "delimiter", takesArgument := true },
      { letter := 's', name := "only-delimited" }, { letter := 'n' },
      { letter := 'C', name := "complement" }, { letter := 'z', name := "zero-terminated" },
      { letter := 'o', name := "output-delimiter", takesArgument := true }]
  withChoices given known false 1 fun choices => do
    let positions := (choices.argument? 'b').or (choices.argument? 'c')
    let fields := choices.argument? 'f'
    let delimiter := (choices.argument? 'd').getD ['\t']
    match positions, fields with
    | none, none =>
        misuse given 1 (chars "you must specify a list of bytes, characters, or fields")
    | some _, some _ => refuse given 1 (chars "only one list may be specified")
    | _, _ =>
        match ranges ((positions.or fields).getD []) with
        | none =>
            misuse given 1
              (chars (if positions.isSome then "byte/character positions are numbered from 1"
                else "fields are numbered from 1"))
        | some wanted =>
            if 1 < delimiter.length then
              refuse given 1 (chars "the delimiter must be a single character")
            else if positions.isSome && choices.has 'd' then
              refuse given 1
                (chars "an input delimiter may be specified only when operating on fields")
            else do
              let (files, isComplete) ← readFiles given (inputsOf choices.operands)
              let isWanted (index : Nat) : Bool :=
                let inside := wanted.any fun range =>
                  range.1 ≤ index + 1 && range.2.all (index + 1 ≤ ·)
                inside != choices.has 'C'
              let pick {α : Type} (items : List α) : List α :=
                ((items.zip (List.range items.length)).filter fun item => isWanted item.2).map
                  Prod.fst
              let mark := delimiter.headD (Char.ofNat 0)
              let ending := if choices.has 'z' then Char.ofNat 0 else '\n'
              let between := (choices.argument? 'o').getD [mark]
              let shown (line : Bytes) : Option Bytes :=
                if positions.isSome then
                  some (pick line)
                else if !line.contains mark then
                  if choices.has 's' then none else some line
                else
                  some (between.intercalate (pick (line.splitOn mark)))
              let all := files.flatMap fun file => pieces ending file.2
              finish given (if isComplete then 0 else 1)
                ((all.filterMap shown).flatMap fun line => line ++ [ending])

/-- The order of texts by their bytes. -/
def compareBytes : Bytes → Bytes → Ordering
  | [], [] => .eq
  | [], _ :: _ => .lt
  | _ :: _, [] => .gt
  | c :: rest, d :: others =>
      match compare c.toNat d.toNat with
      | .eq => compareBytes rest others
      | order => order

/-- The number at the front of a text, as a numerator over a power of ten. -/
def leadingNumber (text : Bytes) : Int × Nat :=
  let body := text.dropWhile fun c => c = ' ' || c = '\t'
  let (sign, body) : Int × Bytes :=
    match body with
    | '-' :: body => (-1, body)
    | body => (1, body)
  let whole := body.takeWhile Char.isDigit
  let fraction : Bytes :=
    match body.drop whole.length with
    | '.' :: rest => rest.takeWhile Char.isDigit
    | _ => []
  (sign * ((number? (whole ++ fraction)).getD 0 : Nat), fraction.length)

/-- The order of texts by the numbers at their fronts. -/
def compareNumbers (first second : Bytes) : Ordering :=
  let (value, places) := leadingNumber first
  let (other, otherPlaces) := leadingNumber second
  compare (value * Int.pow 10 otherPlaces) (other * Int.pow 10 places)

/-- How keys are compared. -/
structure KeyOrder where
  isNumeric : Bool := false
  isReversed : Bool := false
  foldsCase : Bool := false
  skipsBlanks : Bool := false
  isDictionary : Bool := false

/-- A part of a line by which lines are sorted: the field and the character where it begins and
where it ends. -/
structure SortKey where
  first : Nat
  firstOffset : Nat := 1
  last : Option Nat := none
  lastOffset : Nat := 0
  order : KeyOrder

/-- Whether letters choose no order. -/
def KeyOrder.isPlain (order : KeyOrder) : Bool :=
  !order.isNumeric && !order.isReversed && !order.foldsCase && !order.skipsBlanks &&
    !order.isDictionary

/-- The order with one letter more. -/
def KeyOrder.add (order : KeyOrder) (letter : Char) : KeyOrder :=
  match letter with
  | 'n' | 'g' | 'h' => { order with isNumeric := true }
  | 'r' => { order with isReversed := true }
  | 'f' => { order with foldsCase := true }
  | 'b' => { order with skipsBlanks := true }
  | 'd' => { order with isDictionary := true }
  | _ => order

/-- The field and the character of an end of a key, and the letters after them. -/
def keyEnd? (offset : Nat) (text : Bytes) : Option (Nat × Nat × Bytes) :=
  let field := text.takeWhile Char.isDigit
  match number? field, text.drop field.length with
  | some field, '.' :: rest =>
      let place := rest.takeWhile Char.isDigit
      (number? place).map fun place => (field, place, rest.dropWhile Char.isDigit)
  | some field, rest => some (field, offset, rest)
  | none, _ => none

/-- A key as it is written. -/
def sortKey? (global : KeyOrder) (text : Bytes) : Option SortKey :=
  let start := text.takeWhile (· ≠ ',')
  match keyEnd? 1 start with
  | none => none
  | some (0, _, _) => none
  | some (first, offset, letters) =>
      let stop : Option (Nat × Nat × Bytes) :=
        match text.drop start.length with
        | _ :: rest => keyEnd? 0 rest
        | [] => none
      let own := letters ++ (stop.map fun stop => stop.2.2).getD []
      let order := own.foldl KeyOrder.add {}
      some
        { first := first
          firstOffset := offset
          last := stop.map fun stop => stop.1
          lastOffset := (stop.map fun stop => stop.2.1).getD 0
          order := if own.isEmpty then global else order }

/-- The places where the fields of a line begin and end. -/
def fieldSpans (mark : Option Char) : Nat → Nat → Nat → Bytes → List (Nat × Nat)
  | 0, _, _, _ => []
  | _, start, here, [] => [(start, here)]
  | fuel + 1, start, here, c :: rest =>
      match mark with
      | some mark =>
          if c = mark then (start, here) :: fieldSpans (some mark) fuel (here + 1) (here + 1) rest
          else fieldSpans (some mark) fuel start (here + 1) rest
      | none =>
          let isBlank (c : Char) : Bool := c = ' ' || c = '\t'
          let endsField := !isBlank c && rest.head?.any isBlank
          if endsField then
            (start, here + 1) :: fieldSpans none fuel (here + 1) (here + 1) rest
          else
            fieldSpans none fuel start (here + 1) rest

/-- The part of a line that a key chooses. -/
def SortKey.part (key : SortKey) (mark : Option Char) (line : Bytes) : Bytes :=
  let spans := fieldSpans mark (line.length + 1) 0 0 line
  let skip (start stop : Nat) : Nat :=
    if key.order.skipsBlanks then
      let field := (line.drop start).take (stop - start)
      start + (field.takeWhile fun c => c = ' ' || c = '\t').length
    else
      start
  match spans[key.first - 1]? with
  | none => []
  | some (start, stop) =>
      let begins := skip start stop + (key.firstOffset - 1)
      let ends : Nat :=
        match key.last with
        | none => line.length
        | some last =>
            match spans[last - 1]? with
            | none => line.length
            | some (start, stop) =>
                if key.lastOffset = 0 then stop
                else min line.length (skip start stop + key.lastOffset)
      (line.drop begins).take (ends - begins)

/-- Compares two texts in an order. -/
def KeyOrder.compare (order : KeyOrder) (first second : Bytes) : Ordering :=
  let prepare (text : Bytes) : Bytes :=
    let text := if order.skipsBlanks then text.dropWhile fun c => c = ' ' || c = '\t' else text
    let text := if order.foldsCase then text.map Char.toUpper else text
    if order.isDictionary then text.filter fun c => c.isAlphanum || c = ' ' || c = '\t' else text
  let result :=
    if order.isNumeric then compareNumbers first second
    else compareBytes (prepare first) (prepare second)
  if order.isReversed then result.swap else result

/-- Sorts lines. -/
def sort (given : Given) : Job Nat :=
  let known : List Known :=
    [{ letter := 'k', name := "key", takesArgument := true },
      { letter := 't', name := "field-separator", takesArgument := true },
      { letter := 'o', name := "output", takesArgument := true },
      { letter := 'n', name := "numeric-sort" }, { letter := 'r', name := "reverse" },
      { letter := 'f', name := "ignore-case" }, { letter := 'b', name := "ignore-leading-blanks" },
      { letter := 'd', name := "dictionary-order" }, { letter := 'u', name := "unique" },
      { letter := 's', name := "stable" }, { letter := 'c', name := "check" },
      { letter := 'z', name := "zero-terminated" }, { letter := 'g' }, { letter := 'h' },
      { letter := 'C' }, { letter := 'm', name := "merge" },
      { letter := 'S', takesArgument := true }]
  withChoices given known false 2 fun choices => do
    let global := choices.options.foldl (fun order choice => order.add choice.letter)
      ({} : KeyOrder)
    match (choices.arguments 'k').mapM (sortKey? global), choices.argument? 't' with
    | none, _ => refuse given 2 (chars "invalid number at field start")
    | _, some [] => refuse given 2 (chars "empty tab")
    | some keys, tab => do
        let mark := tab.bind List.head?
        let (files, isComplete) ← readInputs given (inputsOf choices.operands)
        if !isComplete then
          pure 2
        else
          let ending := if choices.has 'z' then Char.ofNat 0 else '\n'
          let all := files.flatMap fun file => pieces ending file.2
          let compareKeys (first second : Bytes) : Ordering :=
            if keys.isEmpty then
              global.compare first second
            else
              keys.foldl
                (fun order key =>
                  if order = .eq then
                    key.order.compare (key.part mark first) (key.part mark second)
                  else
                    order)
                .eq
          let hasLast := !choices.has 's' && !choices.has 'u' &&
            (!keys.isEmpty || !global.isPlain)
          let compareLines (first second : Bytes) : Ordering :=
            match compareKeys first second with
            | .eq =>
                if hasLast then
                  let last := compareBytes first second
                  if global.isReversed then last.swap else last
                else
                  .eq
            | order => order
          if choices.has 'c' || choices.has 'C' then
            let rec disorder (number : Nat) : List Bytes → Option (Nat × Bytes)
              | first :: second :: rest =>
                  let order := compareLines first second
                  if order = .gt || (choices.has 'u' && order = .eq) then
                    some (number + 1, second)
                  else
                    disorder (number + 1) (second :: rest)
              | _ => none
            match disorder 1 all with
            | none => pure 0
            | some (number, line) =>
                if choices.has 'C' then pure 1
                else
                  refuse given 1
                    ((inputsOf choices.operands).headD ['-'] ++ ':' :: digits number ++
                      chars ": disorder: " ++ line)
          else
            let sorted := all.mergeSort fun first second => compareLines first second ≠ .gt
            let rec distinct : List Bytes → List Bytes
              | first :: second :: rest =>
                  if compareKeys first second = .eq then
                    distinct (first :: rest)
                  else
                    first :: distinct (second :: rest)
              | rest => rest
            termination_by list => list.length
            let kept := if choices.has 'u' then distinct sorted else sorted
            let text := kept.flatMap fun line => line ++ [ending]
            match choices.argument? 'o' with
            | none => finishWith given 0 2 text
            | some path => do
                match ← openPath path OpenMode.forWriting with
                | .error errno =>
                    refuse given 2 (chars "open failed: " ++ path ++ chars ": " ++ errno.text)
                | .ok descriptor => do
                    let _ ← writeTo descriptor text
                    pure 0
    where
  /-- Reads files; the first one that cannot be read is the end. -/
  readInputs (given : Given) : List Bytes → Job (List (Bytes × Bytes) × Bool)
    | [] => pure ([], true)
    | path :: rest => do
        match ← readFile path with
        | .error errno => do
            let reason := if errno = .isDirectory then "read failed: " else "cannot read: "
            complainAbout given (chars reason ++ path) errno
            pure ([], false)
        | .ok text => do
            let (others, isComplete) ← readInputs given rest
            pure ((path, text) :: others, isComplete)

/-- Runs of lines that count as the same, with their lengths. -/
def runs (same : Bytes → Bytes → Bool) : List Bytes → List (Bytes × Nat)
  | [] => []
  | line :: rest =>
      match runs same rest with
      | (next, count) :: others =>
          if same line next then (line, count + 1) :: others
          else (line, 1) :: (next, count) :: others
      | [] => [(line, 1)]

/-- Leaves out lines that are the same as the one before. -/
def uniq (given : Given) : Job Nat :=
  let known : List Known :=
    [{ letter := 'c', name := "count" }, { letter := 'd', name := "repeated" },
      { letter := 'u', name := "unique" }, { letter := 'i', name := "ignore-case" },
      { letter := 'D' }, { letter := 'f', name := "skip-fields", takesArgument := true },
      { letter := 's', name := "skip-chars", takesArgument := true },
      { letter := 'w', name := "check-chars", takesArgument := true },
      { letter := 'z', name := "zero-terminated" }]
  withChoices given known false 1 fun choices => do
    let path := choices.operands.headD ['-']
    match ← readFile path with
    | .error errno => do
        complainAbout given path errno
        pure 1
    | .ok text =>
        let count (letter : Char) : Nat := ((choices.argument? letter).bind number?).getD 0
        let isBlank (c : Char) : Bool := c = ' ' || c = '\t'
        let rec withoutFields : Nat → Bytes → Bytes
          | 0, line => line
          | fields + 1, line =>
              withoutFields fields ((line.dropWhile isBlank).dropWhile (!isBlank ·))
        let key (line : Bytes) : Bytes :=
          let cut := (withoutFields (count 'f') line).drop (count 's')
          let cut := if choices.has 'w' then cut.take (count 'w') else cut
          if choices.has 'i' then cut.map Char.toLower else cut
        let ending := if choices.has 'z' then Char.ofNat 0 else '\n'
        let grouped := runs (fun first second => key first = key second) (pieces ending text)
        let shown := grouped.filter fun run =>
          (!choices.has 'd' || 1 < run.2) && (!choices.has 'u' || run.2 = 1)
        let result := shown.flatMap fun (line, count) =>
          let front :=
            if choices.has 'c' then
              List.replicate (7 - (digits count).length) ' ' ++ digits count ++ [' ']
            else []
          front ++ line ++ [ending]
        match choices.operands with
        | [_, target] => do
            match ← openPath target OpenMode.forWriting with
            | .error errno => do
                complainAbout given target errno
                pure 1
            | .ok descriptor => do
                let _ ← writeTo descriptor result
                pure 0
        | _ => finish given 0 result

/-- The lines of two sorted texts, each with the column in which it stands. -/
def merged : Nat → List Bytes → List Bytes → List (Nat × Bytes)
  | 0, _, _ => []
  | _, [], [] => []
  | fuel + 1, line :: rest, [] => (1, line) :: merged fuel rest []
  | fuel + 1, [], line :: rest => (2, line) :: merged fuel [] rest
  | fuel + 1, first :: rest, second :: others =>
      match compareBytes first second with
      | .lt => (1, first) :: merged fuel rest (second :: others)
      | .gt => (2, second) :: merged fuel (first :: rest) others
      | .eq => (3, first) :: merged fuel rest others

/-- Compares two sorted files line by line. -/
def comm (given : Given) : Job Nat :=
  withChoices given (switches "123z") false 1 fun choices => do
    match choices.operands with
    | [first, second] => do
        let (files, isComplete) ← readFiles given [first, second]
        match isComplete, files with
        | true, [(_, text), (_, other)] =>
            let all := merged (text.length + other.length + 1) (lines text) (lines other)
            let hides (column : Nat) : Bool := choices.has (Char.ofNat ('0'.toNat + column))
            let shown := all.filter fun entry => !hides entry.1
            let line (entry : Nat × Bytes) : Bytes :=
              let before := ([1, 2].filter fun column => column < entry.1 && !hides column).length
              List.replicate before '\t' ++ entry.2
            finish given 0 (unlines (shown.map line))
        | _, _ => pure 1
    | [] => misuse given 1 (chars "missing operand")
    | _ => misuse given 1 (chars "missing operand after '" ++ choices.operands.headD [] ++ ['\''])

/-- A decimal number: its value over a power of ten. -/
def decimal? (text : Bytes) : Option (Int × Nat) :=
  let (sign, body) : Int × Bytes :=
    match text with
    | '-' :: body => (-1, body)
    | '+' :: body => (1, body)
    | body => (1, body)
  let whole := body.takeWhile Char.isDigit
  let fraction? : Option Bytes :=
    match body.drop whole.length with
    | [] => some []
    | '.' :: rest => if rest.all Char.isDigit then some rest else none
    | _ => none
  match fraction? with
  | none => none
  | some fraction =>
      (number? (whole ++ fraction)).map fun value => (sign * (value : Int), fraction.length)

/-- A value over a power of ten as it is written. -/
def decimalText (places : Nat) (value : Int) : Bytes :=
  let all := digits value.natAbs
  let padded := List.replicate (places + 1 - all.length) '0' ++ all
  let whole := padded.take (padded.length - places)
  let fraction := padded.drop (padded.length - places)
  (if value < 0 then ['-'] else []) ++ whole ++
    (if places = 0 then [] else '.' :: fraction)

/-- Writes numbers from one to another. -/
def seq (given : Given) : Job Nat :=
  let isNumber (text : Bytes) : Bool := (decimal? text).isSome
  let options := given.arguments.takeWhile fun text => !isNumber text
  let rest := given.arguments.drop options.length
  let known : List Known :=
    [{ letter := 's', name := "separator", takesArgument := true },
      { letter := 'f', name := "format", takesArgument := true },
      { letter := 'w', name := "equal-width" }]
  let last := options.getLast?
  let takesNumber := last = some ['-', 's'] || last = some ['-', 'f']
  let options := if takesNumber then options ++ rest.take 1 else options
  let rest := if takesNumber then rest.drop 1 else rest
  withChoices { given with arguments := options } known false 1 fun choices => do
    let operands := choices.operands ++ rest
    let values := operands.mapM decimal?
    match operands.find? fun text => !isNumber text with
    | some text => misuse given 1 (chars "invalid floating point argument: '" ++ text ++ ['\''])
    | none =>
        let bounds : Option ((Int × Nat) × (Int × Nat) × (Int × Nat)) :=
          match values with
          | some [last] => some ((1, 0), (1, 0), last)
          | some [first, last] => some (first, (1, 0), last)
          | some [first, step, last] => some (first, step, last)
          | _ => none
        match bounds with
        | none =>
            if operands.isEmpty then misuse given 1 (chars "missing operand")
            else misuse given 1 (chars "extra operand '" ++ operands.getD 3 [] ++ ['\''])
        | some (first, step, last) =>
            let places := max first.2 step.2
            let scale := max places last.2
            let at_ (value : Int × Nat) : Int := value.1 * Int.pow 10 (scale - value.2)
            let (start, step, stop) := (at_ first, at_ step, at_ last)
            if step = 0 then
              refuse given 1 (chars "invalid Zero increment value: '0'")
            else
              let count : Nat :=
                if 0 < step then
                  if stop < start then 0 else ((stop - start) / step).toNat + 1
                else
                  if start < stop then 0 else ((start - stop) / (-step)).toNat + 1
              let text (index : Nat) : Bytes :=
                decimalText places ((start + step * index) / Int.pow 10 (scale - places))
              let width :=
                if choices.has 'w' then max (text 0).length (text (count - 1)).length else 0
              let padded (text : Bytes) : Bytes :=
                match text with
                | '-' :: body => '-' :: List.replicate (width - text.length) '0' ++ body
                | body => List.replicate (width - body.length) '0' ++ body
              let mark := (choices.argument? 's').getD ['\n']
              let formatted (text : Bytes) : Bytes :=
                match choices.argument? 'f' with
                | none => padded text
                | some format =>
                    let front := format.takeWhile (· ≠ '%')
                    let back := ((format.drop front.length).dropWhile fun c =>
                      !"gfe".toList.contains c).drop 1
                    front ++ text ++ back
              if count = 0 then
                pure 0
              else
                let rec blocks (start : Nat) : Nat → Job Nat
                  | 0 => pure 0
                  | fuel + 1 => do
                      let size := min 1000 (count - start)
                      let piece := (List.range size).flatMap fun index =>
                        formatted (text (start + index)) ++
                          (if start + index + 1 = count then ['\n'] else mark)
                      writeOrEnd given 1 piece
                      if start + size = count then
                        pure 0
                      else
                        blocks (start + size) fuel
                blocks 0 count

end Tool

end Cadence
