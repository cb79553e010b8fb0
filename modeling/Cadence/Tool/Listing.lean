import Cadence.Shell.Pattern
import Cadence.Tool.Date
import Cadence.Tool.Fields
import Cadence.Tool.Files
import Cadence.Tool.Processes

namespace Cadence

namespace Tool

open Host

/-!
# Tools that tell about files

They list directories, tell the facts about single files, and search trees of
files for those that fit a condition.
-/

/-- The letter of a kind of file. -/
def kindLetter : FileKind → Char
  | .regular => '-'
  | .directory => 'd'
  | .link => 'l'
  | .characterDevice => 'c'
  | .blockDevice => 'b'
  | .fifo => 'p'
  | .socket => 's'

/-- The kind of a file and its mode, in letters. -/
def modeText (status : FileStatus) : Bytes :=
  kindLetter status.kind :: Mode.letters status.mode

/-- How directories are listed. -/
structure ListStyle where
  showsHidden : Bool
  showsDots : Bool
  isLong : Bool
  isReversed : Bool
  isByTime : Bool
  isBySize : Bool
  isUnsorted : Bool
  marksKinds : Bool
  marksDirectories : Bool
  showsSerials : Bool
  joins : Bool
  isWhole : Bool
  hasTitles : Bool

/-- A file that is listed. -/
structure Listed where
  name : Bytes
  path : Bytes
  status : FileStatus

/-- The mark of a file after its name. -/
def mark (style : ListStyle) (status : FileStatus) : Bytes :=
  match status.kind with
  | .directory => if style.marksKinds || style.marksDirectories then ['/'] else []
  | .link => if style.marksKinds then ['@'] else []
  | .fifo => if style.marksKinds then ['|'] else []
  | .regular => if style.marksKinds && status.mode &&& 0o111 ≠ 0 then ['*'] else []
  | _ => []

/-- The line of a file. -/
def listLine (style : ListStyle) (listed : Listed) : Job Bytes := do
  let status := listed.status
  let serial := if style.showsSerials then digits status.serial ++ [' '] else []
  let target : Bytes ←
    if style.isLong && status.kind = .link then
      pure (((← Job.ask (.readLink listed.path)).toOption.map fun target =>
        chars " -> " ++ target).getD [])
    else
      pure []
  let facts : Bytes :=
    if style.isLong then
      modeText status ++ chars " 1 root root " ++ digits status.size ++
        Moment.write status.modified (chars " %b %e %H:%M ")
    else
      []
  let shown := if target.isEmpty then mark style status else []
  pure (serial ++ facts ++ listed.name ++ shown ++ target)

/-- Files in the order in which they are listed. -/
def inListOrder (style : ListStyle) (files : List Listed) : List Listed :=
  let byName := files.mergeSort fun first second =>
    compareBytes first.name second.name ≠ .gt
  let sorted :=
    if style.isUnsorted then files
    else if style.isByTime then
      byName.mergeSort fun first second => second.status.modified ≤ first.status.modified
    else if style.isBySize then
      byName.mergeSort fun first second => second.status.size ≤ first.status.size
    else byName
  if style.isReversed then sorted.reverse else sorted

/-- The text for some files. -/
def listText (style : ListStyle) (files : List Listed) : Job Bytes := do
  let shown ← (inListOrder style files).mapM (listLine style)
  pure (if style.joins && !shown.isEmpty then (chars ", ").intercalate shown ++ ['\n']
    else unlines shown)

/-- The files of some names in a directory. -/
def listedIn (directory : Bytes) : List Bytes → Job (List Listed)
  | [] => pure []
  | name :: rest => do
      let path := under directory name
      let others ← listedIn directory rest
      match ← Job.ask (.status path false) with
      | .ok status => pure (⟨name, path, status⟩ :: others)
      | .error _ => pure others

/-- Lists directories, each under a title if there are several; the answer is the text and whether
all could be read.  The first argument bounds the depth. -/
def listDirectories (given : Given) (style : ListStyle) :
    Nat → Bool → List Bytes → Job (Bytes × Bool)
  | 0, _, _ => pure ([], true)
  | _, _, [] => pure ([], true)
  | fuel + 1, isFirst, path :: rest => do
      match ← Job.ask (.entries path) with
      | .error errno => do
          let _ ← fail given "cannot open directory" path errno
          let (text, _) ← listDirectories given style fuel isFirst rest
          pure (text, false)
      | .ok names => do
          let isShown (name : Bytes) : Bool := style.showsHidden || name.head? ≠ some '.'
          let dots := if style.showsDots then [['.'], ['.', '.']] else []
          let files ← listedIn path (dots ++ names.filter isShown)
          let body ← listText style files
          let title := if style.hasTitles then path ++ [':', '\n'] else []
          let gap := if isFirst then [] else ['\n']
          let total := if style.isLong then chars "total 0\n" else []
          let below := (inListOrder style files).filter fun listed =>
            listed.status.kind = .directory && !dots.contains listed.name
          let next := if style.isWhole then below.map Listed.path ++ rest else rest
          let (others, isComplete) ← listDirectories given style fuel false next
          pure (gap ++ title ++ total ++ body ++ others, isComplete)

/-- Looks at the operands of a listing: the files, the directories, and whether all are there. -/
def listOperands (given : Given) (isPlain follows : Bool) :
    List Bytes → Job (List Listed × List Listed × Bool)
  | [] => pure ([], [], true)
  | path :: rest => do
      let found : Except Errno FileStatus ← do
        match ← Job.ask (.status path follows) with
        | .ok status => pure (.ok status)
        | .error _ => Job.ask (.status path false)
      let isKept ←
        match found with
        | .ok _ => pure true
        | .error errno => fail given "cannot access" path errno
      let (files, directories, isComplete) ← listOperands given isPlain follows rest
      match found with
      | .error _ => pure (files, directories, isKept)
      | .ok status =>
          let listed : Listed := ⟨path, path, status⟩
          if status.kind = .directory && !isPlain then
            pure (files, listed :: directories, isComplete)
          else
            pure (listed :: files, directories, isComplete)

/-- Lists files and directories. -/
def ls (given : Given) : Job Nat :=
  let known : List Known :=
    [{ letter := 'a', name := "all" }, { letter := 'A', name := "almost-all" },
      { letter := 'd', name := "directory" }, { letter := 'r', name := "reverse" },
      { letter := 'R', name := "recursive" }, { letter := 'F', name := "classify" },
      { letter := 'i', name := "inode" }, { letter := 'L', name := "dereference" }] ++
      switches "1CxmlptSUfhnosgqkGHNQBcuv"
  withChoices given known false 2 fun choices => do
    let operands := if choices.operands.isEmpty then [['.']] else choices.operands
    let isLong := choices.has 'l' || choices.has 'n' || choices.has 'o' || choices.has 'g'
    let follows := choices.has 'L' || !(isLong || choices.has 'd' || choices.has 'F')
    let (files, directories, isComplete) ← listOperands given (choices.has 'd') follows operands
    let style : ListStyle :=
      { showsHidden := choices.has 'a' || choices.has 'A' || choices.has 'f'
        showsDots := choices.has 'a' || choices.has 'f'
        isLong := isLong
        isReversed := choices.has 'r'
        isByTime := choices.has 't'
        isBySize := choices.has 'S'
        isUnsorted := choices.has 'U' || choices.has 'f'
        marksKinds := choices.has 'F'
        marksDirectories := choices.has 'p'
        showsSerials := choices.has 'i'
        joins := choices.has 'm'
        isWhole := choices.has 'R'
        hasTitles := choices.has 'R' || 1 < operands.length }
    let first ← listText style files
    let paths := (inListOrder style directories).map Listed.path
    let (others, areRead) ← listDirectories given style patience files.isEmpty paths
    finishWith given (if isComplete && areRead then 0 else 2) 2 (first ++ others)

/-- The words for a kind of file. -/
def kindText (status : FileStatus) : String :=
  match status.kind with
  | .regular => if status.size = 0 then "regular empty file" else "regular file"
  | .directory => "directory"
  | .link => "symbolic link"
  | .characterDevice => "character special file"
  | .blockDevice => "block special file"
  | .fifo => "fifo"
  | .socket => "socket"

/-- The number that stands for a kind of file in a whole mode. -/
def kindNumber : FileKind → Nat
  | .fifo => 0o010000
  | .characterDevice => 0o020000
  | .directory => 0o040000
  | .blockDevice => 0o060000
  | .regular => 0o100000
  | .link => 0o120000
  | .socket => 0o140000

/-- What a letter of a format tells about a file. -/
def fact (path : Bytes) (status : FileStatus) (letter : Char) : Bytes :=
  let seconds := status.modified / Nat.pow 10 9
  match letter with
  | 'a' => Nat.toDigits 8 status.mode
  | 'A' => modeText status
  | 'b' => digits ((status.size + 4095) / 4096 * 8)
  | 'B' => chars "512"
  | 'f' => Nat.toDigits 16 (kindNumber status.kind + status.mode)
  | 'F' => chars (kindText status)
  | 'g' => digits status.group
  | 'G' | 'U' => chars "root"
  | 'h' => ['1']
  | 'i' => digits status.serial
  | 'n' => path
  | 'N' => '\'' :: path ++ ['\'']
  | 'o' => chars "4096"
  | 's' => digits status.size
  | 'u' => digits status.owner
  | 'W' => ['0']
  | 'X' | 'Y' | 'Z' => digits seconds
  | 'x' | 'y' | 'z' => Moment.write status.modified (chars "%F %T.%N %z")
  | 'd' | 'D' | 't' | 'T' => ['0']
  | '%' => ['%']
  | _ => ['?']

/-- Writes a format about a file; a backslash is an escape on request. -/
def factText (path : Bytes) (status : FileStatus) (hasEscapes : Bool) : Bytes → Bytes
  | '%' :: letter :: rest => fact path status letter ++ factText path status hasEscapes rest
  | '\\' :: letter :: rest =>
      let shown :=
        if !hasEscapes then ['\\', letter]
        else if letter = 'n' then ['\n']
        else if letter = 't' then ['\t']
        else [letter]
      shown ++ factText path status hasEscapes rest
  | c :: rest => c :: factText path status hasEscapes rest
  | [] => []

/-- Tells the facts about files. -/
def stat (given : Given) : Job Nat :=
  let known : List Known :=
    [{ letter := 'L', name := "dereference" }, { letter := 'f', name := "file-system" },
      { letter := 't', name := "terse" },
      { letter := 'c', name := "format", takesArgument := true },
      { letter := 'p', name := "printf", takesArgument := true }]
  withFiles given known fun choices path => do
    match ← Job.ask (.status path (choices.has 'L')) with
    | .error errno => fail given "cannot statx" path errno
    | .ok status =>
        let tell (text : Bytes) : Job Bool := do
          writeOrEnd given 1 text
          pure true
        match choices.argument? 'p', choices.argument? 'c' with
        | some format, _ => tell (factText path status true format)
        | none, some format => tell (factText path status false format ++ ['\n'])
        | none, none =>
            let format := "  File: %n\n  Size: %s\tBlocks: %b\tIO Block: %o\t%F\n" ++
              "Device: %d\tInode: %i\tLinks: %h\nAccess: (%a/%A)  Uid: (%u/%U)   Gid: (%g/%G)\n" ++
              "Access: %x\nModify: %y\nChange: %z\n Birth: -\n"
            tell (factText path status false format.toList)

/-- A condition on the files of a tree, or something to do with them. -/
inductive Condition
  | always
  | never
  | isNamed (fits : Bytes → Bool)
  | hasPath (fits : Bytes → Bool)
  | isKind (letters : Bytes)
  | isEmpty
  /-- The size in units, rounded up, in comparison with a number. -/
  | hasSize (order : Ordering) (count unit : Nat)
  | hasMode (bits : Nat) (isExact : Bool)
  | isNewer (time : Nat)
  | print (stop : Char)
  | printFormat (format : Bytes)
  | delete
  /-- Runs a program on the file. -/
  | run (words : List Bytes)
  /-- Collects the file for one run of a program. -/
  | collect (words : List Bytes)
  | cut
  | quit
  | not (condition : Condition)
  | and (first second : Condition)
  | or (first second : Condition)

namespace Condition

/-- Whether a condition does something that shows. -/
def acts : Condition → Bool
  | print _ | printFormat _ | delete | run _ | collect _ | quit => true
  | not condition => acts condition
  | and first second | or first second => acts first || acts second
  | _ => false

/-- Whether files are removed, so that directories come after what is in them. -/
def deletes : Condition → Bool
  | delete => true
  | not condition => deletes condition
  | and first second | or first second => deletes first || deletes second
  | _ => false

/-- A number in comparison. -/
def compared (text : Bytes) : Ordering × Bytes :=
  match text with
  | '+' :: rest => (.gt, rest)
  | '-' :: rest => (.lt, rest)
  | rest => (.eq, rest)

/-- The size that a text asks for. -/
def size? (text : Bytes) : Option Condition :=
  let (order, rest) := compared text
  let count := rest.takeWhile Char.isDigit
  let unit? : Option Nat :=
    match rest.drop count.length with
    | [] | ['b'] => some 512
    | ['c'] => some 1
    | ['w'] => some 2
    | ['k'] => some 1024
    | ['M'] => some 1048576
    | _ => none
  match number? count, unit? with
  | some count, some unit => some (.hasSize order count unit)
  | _, _ => none

/-- The words of a program up to its end, whether the files are collected, and what follows. -/
def command? : List Bytes → List Bytes → Option (List Bytes × Bool × List Bytes)
  | _, [] => none
  | words, [';'] :: rest => if words.isEmpty then none else some (words.reverse, false, rest)
  | words, ['+'] :: rest =>
      if words.head? = some ['{', '}'] then some (words.tail.reverse, true, rest)
      else command? (['+'] :: words) rest
  | words, word :: rest => command? (word :: words) rest

/-- Reads a condition that takes no arguments. -/
def simple? (word : Bytes) : Option Condition :=
  match String.ofList word with
  | "-true" | "-depth" | "-mount" | "-xdev" | "-noleaf" => some .always
  | "-false" => some .never
  | "-empty" => some .isEmpty
  | "-print" => some (.print '\n')
  | "-print0" => some (.print (Char.ofNat 0))
  | "-delete" => some .delete
  | "-prune" => some .cut
  | "-quit" => some .quit
  | "-executable" => some (.hasMode 0o111 false)
  | "-readable" | "-writable" => some .always
  | _ => none

/-- Reads a condition that takes one argument; none if it is unknown, and the wrong argument if
that is not understood. -/
def withArgument? (word argument : Bytes) : Option (Except Bytes Condition) :=
  let lower (text : Bytes) : Bytes := text.map Char.toLower
  let fits := Shell.Pattern.isMatch argument
  let fitsLower (text : Bytes) : Bool := Shell.Pattern.isMatch (lower argument) (lower text)
  let orElse (condition? : Option Condition) : Option (Except Bytes Condition) :=
    some ((condition?.map Except.ok).getD (.error argument))
  match String.ofList word with
  | "-name" => some (.ok (.isNamed fits))
  | "-iname" => some (.ok (.isNamed fitsLower))
  | "-path" | "-wholename" => some (.ok (.hasPath fits))
  | "-ipath" => some (.ok (.hasPath fitsLower))
  | "-type" =>
      let letters := argument.filter (· ≠ ',')
      orElse (if letters.all fun c => (chars "fdlpcbs").contains c then some (.isKind letters)
        else none)
  | "-size" => orElse (size? argument)
  | "-perm" =>
      let (text, isExact) : Bytes × Bool :=
        match argument with
        | '-' :: rest => (rest, false)
        | rest => (rest, true)
      orElse ((Mode.change? false 0 0 text).map fun bits => .hasMode bits isExact)
  | "-printf" => some (.ok (.printFormat argument))
  | "-user" | "-group" | "-uid" | "-gid" => some (.ok .always)
  | _ => none

/-- Reads the parts of a condition between `-o`, from the loosest to the tightest.  The level tells
what is read: 0 alternatives, 1 a sequence, 2 one part.  The first argument bounds the length. -/
def read : Nat → Nat → List Bytes → Job (Except Bytes (Condition × List Bytes))
  | 0, _, _ => pure (.error (chars "invalid expression"))
  | fuel + 1, 0, words => do
      match ← read fuel 1 words with
      | .error reason => pure (.error reason)
      | .ok (first, word :: rest) =>
          if word = chars "-o" || word = chars "-or" || word = [','] then
            match ← read fuel 0 rest with
            | .error reason => pure (.error reason)
            | .ok (second, rest) => pure (.ok (.or first second, rest))
          else
            pure (.ok (first, word :: rest))
      | .ok (first, []) => pure (.ok (first, []))
  | fuel + 1, 1, words => do
      match ← read fuel 2 words with
      | .error reason => pure (.error reason)
      | .ok (first, rest) =>
          let next := if rest.head? = some (chars "-a") || rest.head? = some (chars "-and") then
            rest.tail else rest
          let isOver := match next with
            | [] => true
            | word :: _ => word = chars "-o" || word = chars "-or" || word = [')'] || word = [',']
          if isOver then
            pure (.ok (first, rest))
          else
            match ← read fuel 1 next with
            | .error reason => pure (.error reason)
            | .ok (second, rest) => pure (.ok (.and first second, rest))
  | fuel + 1, _, words => do
      match words with
      | [] => pure (.error (chars "invalid expression"))
      | word :: rest =>
          if word = ['!'] || word = chars "-not" then
            match ← read fuel 2 rest with
            | .error reason => pure (.error reason)
            | .ok (condition, rest) => pure (.ok (.not condition, rest))
          else if word = ['('] then
            match ← read fuel 0 rest with
            | .ok (condition, [')'] :: rest) => pure (.ok (condition, rest))
            | .ok _ =>
                pure (.error (chars ("invalid expression; I was expecting to find a ')' " ++
                  "somewhere but did not see one.")))
            | .error reason => pure (.error reason)
          else if word = chars "-exec" || word = chars "-execdir" || word = chars "-ok" then
            match command? [] rest with
            | none => pure (.error (chars "missing argument to \x60" ++ word ++ ['\'']))
            | some (command, isCollected, rest) =>
                pure (.ok (if isCollected then .collect command else .run command, rest))
          else
            match simple? word, rest with
            | some condition, rest => pure (.ok (condition, rest))
            | none, [] => pure (.error (chars "unknown predicate \x60" ++ word ++ ['\'']))
            | none, argument :: rest =>
                if word = chars "-newer" then
                  match ← Job.ask (.status argument true) with
                  | .ok status => pure (.ok (.isNewer status.modified, rest))
                  | .error errno =>
                      pure (.error ('\'' :: argument ++ chars "': " ++ errno.text))
                else
                  match withArgument? word argument with
                  | some (.ok condition) => pure (.ok (condition, rest))
                  | some (.error argument) =>
                      pure (.error (chars "invalid argument '" ++ argument ++ chars "' to '" ++
                        word ++ ['\'']))
                  | none => pure (.error (chars "unknown predicate \x60" ++ word ++ ['\'']))

end Condition

/-- What a search of a tree has come to. -/
structure Search where
  isCut : Bool := false
  isOver : Bool := false
  isFailed : Bool := false
  collected : List (List Bytes × List Bytes) := []

/-- Runs a program and waits for its end; the answer is whether it succeeded. -/
def succeeds (given : Given) (words : List Bytes) : Job Bool := do
  let child ← Job.fork do
    let errno ← become given.launch words given.surroundings
    complain given ('\'' :: words.headD [] ++ chars "': " ++ errno.text)
    pure 1
  match ← Job.ask (.wait (some child) none false) with
  | .ended _ ending => pure (ending.status = 0)
  | _ => pure false

/-- Notes a file for one run of a program. -/
def Search.collect (search : Search) (words : List Bytes) (path : Bytes) : Search :=
  let isKnown := search.collected.any fun entry => entry.1 = words
  { search with
    collected :=
      if isKnown then
        search.collected.map fun entry =>
          if entry.1 = words then (words, path :: entry.2) else entry
      else
        (words, [path]) :: search.collected }

/-- Decides a condition on a file. -/
def Condition.decide (given : Given) (path : Bytes) (status : FileStatus) :
    Condition → Search → Job (Bool × Search)
  | .always, search => pure (true, search)
  | .never, search => pure (false, search)
  | .isNamed fits, search => pure (fits (lastName [] path), search)
  | .hasPath fits, search => pure (fits path, search)
  | .isKind letters, search =>
      let letter := kindLetter status.kind
      pure (letters.contains (if letter = '-' then 'f' else letter), search)
  | .isEmpty, search => do
      match status.kind with
      | .regular => pure (status.size = 0, search)
      | .directory => do
          let names := (← Job.ask (.entries path)).toOption
          pure (names.any List.isEmpty, search)
      | _ => pure (false, search)
  | .hasSize order count unit, search =>
      pure (compare ((status.size + unit - 1) / unit) count = order, search)
  | .hasMode bits isExact, search =>
      pure (if isExact then status.mode = bits else status.mode &&& bits = bits, search)
  | .isNewer time, search => pure (time < status.modified, search)
  | .print stop, search => do
      writeOrEnd given 1 (path ++ [stop])
      pure (true, search)
  | .printFormat format, search => do
      let adapted (c : Char) : Char :=
        match c with
        | 'p' => 'n'
        | 'm' => 'a'
        | 'M' => 'A'
        | c => c
      let rec adapt : Bytes → Bytes
        | '%' :: 'f' :: rest => lastName [] path ++ adapt rest
        | '%' :: 'h' :: rest => directoryOf path ++ adapt rest
        | '%' :: 'y' :: rest =>
            let letter := kindLetter status.kind
            (if letter = '-' then 'f' else letter) :: adapt rest
        | '%' :: c :: rest => '%' :: adapted c :: adapt rest
        | c :: rest => c :: adapt rest
        | [] => []
      writeOrEnd given 1 (factText path status true (adapt format))
      pure (true, search)
  | .delete, search => do
      let removed ←
        if status.kind = .directory then Job.ask (.removeDirectory path)
        else Job.ask (.remove path)
      match removed with
      | .ok _ => pure (true, search)
      | .error errno => do
          if path ≠ ['.'] then
            let _ ← fail given "cannot delete" path errno
          pure (path = ['.'], { search with isFailed := search.isFailed || path ≠ ['.'] })
  | .run words, search => do
      let whole := words.map fun word => replaceAll ['{', '}'] path (word.length + 1) word
      pure (← succeeds given whole, search)
  | .collect words, search => pure (true, search.collect words path)
  | .cut, search => pure (true, { search with isCut := true })
  | .quit, search => pure (true, { search with isOver := true })
  | .not condition, search => do
      let (holds, search) ← condition.decide given path status search
      pure (!holds, search)
  | .and first second, search => do
      let (holds, search) ← first.decide given path status search
      if holds && !search.isOver then second.decide given path status search
      else pure (holds, search)
  | .or first second, search => do
      let (holds, search) ← first.decide given path status search
      if holds || search.isOver then pure (holds, search)
      else second.decide given path status search

/-- Which depths of a tree are searched, and in which order. -/
structure SearchStyle where
  least : Nat := 0
  most : Nat := patience
  isUpward : Bool
  follows : Bool

/-- Searches trees of files one after the other.  The first argument bounds the depth. -/
def searchTrees (given : Given) (style : SearchStyle) (condition : Condition) :
    Nat → Nat → List Bytes → Search → Job Search
  | 0, _, _, search => pure search
  | _, _, [], search => pure search
  | fuel + 1, depth, path :: rest, search => do
      if search.isOver then
        pure search
      else
        match ← Job.ask (.status path style.follows) with
        | .error errno => do
            complain given ('\'' :: path ++ chars "': " ++ errno.text)
            searchTrees given style condition fuel depth rest { search with isFailed := true }
        | .ok status => do
            let decideHere (search : Search) : Job Search := do
              if style.least ≤ depth && !search.isOver then
                pure (← condition.decide given path status search).2
              else
                pure search
            let goDown (search : Search) : Job Search := do
              if status.kind = .directory && depth < style.most && !search.isCut &&
                  !search.isOver then
                let names := (← Job.ask (.entries path)).toOption.getD []
                searchTrees given style condition fuel (depth + 1) (names.map (under path)) search
              else
                pure search
            let plain := { search with isCut := false }
            let search ←
              if style.isUpward then do
                decideHere (← goDown plain)
              else do
                goDown (← decideHere plain)
            searchTrees given style condition fuel depth rest { search with isCut := false }

/-- Runs the programs for which files have been collected; the answer is whether all succeeded. -/
def runCollected (given : Given) : List (List Bytes × List Bytes) → Job Bool
  | [] => pure true
  | (words, paths) :: rest => do
      let isDone ← succeeds given (words ++ paths.reverse)
      let areOthers ← runCollected given rest
      pure (isDone && areOthers)

/-- Takes an option of the whole search out of its words. -/
def takeDepth (option : String) : List Bytes → Option Nat × List Bytes
  | word :: argument :: rest =>
      if word = chars option then
        (number? argument, rest)
      else
        let (found, others) := takeDepth option (argument :: rest)
        (found, word :: others)
  | words => (none, words)

/-- Searches trees of files. -/
def find (given : Given) : Job Nat := do
  let follows := given.arguments.head? = some (chars "-L")
  let isOption (word : Bytes) : Bool :=
    word = chars "-L" || word = chars "-P" || word = chars "-H"
  let arguments := given.arguments.dropWhile isOption
  let isPath (word : Bytes) : Bool :=
    word.head? ≠ some '-' && word ≠ ['!'] && word ≠ ['('] && word ≠ [')']
  let named := arguments.takeWhile isPath
  let paths := if named.isEmpty then [['.']] else named
  let (most, words) := takeDepth "-maxdepth" (arguments.drop named.length)
  let (least, words) := takeDepth "-mindepth" words
  let read : Except Bytes (Condition × List Bytes) ←
    if words.isEmpty then pure (.ok (.always, []))
    else Condition.read (4 * words.length + 4) 0 words
  match read with
  | .error reason => refuse given 1 reason
  | .ok (_, _ :: _) => refuse given 1 (chars "invalid expression; you have too many ')'")
  | .ok (condition, []) => do
      let whole := if condition.acts then condition else .and condition (.print '\n')
      let style : SearchStyle :=
        { least := least.getD 0
          most := most.getD patience
          isUpward := condition.deletes || words.contains (chars "-depth")
          follows := follows }
      let search ← searchTrees given style whole patience 0 paths {}
      let areRun ← runCollected given search.collected.reverse
      pure (statusOf (areRun && !search.isFailed))

end Tool

end Cadence
