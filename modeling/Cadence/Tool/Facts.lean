import Cadence.Tool.Streams

namespace Cadence

namespace Tool

open Host

/-!
# Tools that tell what they know

They write their arguments or a fact about the system, or only end with a status.
-/

/-- Ends with a status. -/
def endWith (status : Nat) (given : Given) : Job Nat :=
  match given.arguments with
  | [argument] =>
      if argument = chars "--help" || argument = chars "--version" then
        finish given status (given.name ++ ['\n'])
      else
        pure status
  | _ => pure status

/-- Writes a fact; operands are not understood. -/
def tell (fact : String) (given : Given) : Job Nat :=
  withChoices given [] false 1 fun choices => do
    match choices.operands with
    | [] => finish given 0 (chars fact ++ ['\n'])
    | extra :: _ => misuse given 1 (chars "extra operand '" ++ extra ++ ['\''])

/-- Writes a fact, whatever the arguments are. -/
def tellAnyway (fact : String) (given : Given) : Job Nat :=
  finish given 0 (chars fact ++ ['\n'])

/-- Ends because the answer to a question is no. -/
def deny (status : Nat) (reason : String) (given : Given) : Job Nat :=
  refuse given status (chars reason)

/-- Tells what system this is. -/
def uname (given : Given) : Job Nat :=
  let known : List Known :=
    [{ letter := 's', name := "kernel-name" }, { letter := 'n', name := "nodename" },
      { letter := 'r', name := "kernel-release" }, { letter := 'v', name := "kernel-version" },
      { letter := 'm', name := "machine" }, { letter := 'p', name := "processor" },
      { letter := 'i', name := "hardware-platform" },
      { letter := 'o', name := "operating-system" }, { letter := 'a', name := "all" }]
  withChoices given known false 1 fun choices => do
    let facts : List (Char × String) :=
      [('s', "Linux"), ('n', "host"), ('r', "6.1.0"), ('v', "#1 SMP"), ('m', "x86_64"),
        ('p', "x86_64"), ('i', "x86_64"), ('o', "GNU/Linux")]
    match choices.operands with
    | extra :: _ => misuse given 1 (chars "extra operand '" ++ extra ++ ['\''])
    | [] =>
        let isWanted (letter : Char) : Bool :=
          choices.has letter || choices.has 'a' || (choices.options.isEmpty && letter = 's')
        let wanted := (facts.filter fun fact => isWanted fact.1).map fun fact => chars fact.2
        finish given 0 ([' '].intercalate wanted ++ ['\n'])

/-- Tells who the user is. -/
def id (given : Given) : Job Nat :=
  let known : List Known :=
    [{ letter := 'u', name := "user" }, { letter := 'g', name := "group" },
      { letter := 'G', name := "groups" }, { letter := 'n', name := "name" },
      { letter := 'r', name := "real" }, { letter := 'z', name := "zero" }, { letter := 'a' }]
  withChoices given known false 1 fun choices => do
    let kinds := ['u', 'g', 'G'].filter choices.has
    let stranger? := choices.operands.find? fun name => name ≠ chars "root" && name ≠ ['0']
    match stranger?, kinds with
    | some name, _ => refuse given 1 ('\'' :: name ++ chars "': no such user")
    | none, _ :: _ :: _ => refuse given 1 (chars "cannot print \"only\" of more than one choice")
    | none, [_] => finish given 0 (chars (if choices.has 'n' then "root\n" else "0\n"))
    | none, [] =>
        if choices.has 'n' || choices.has 'r' then
          refuse given 1 (chars "cannot print only names or real IDs in default format")
        else
          finish given 0 (chars "uid=0(root) gid=0(root) groups=0(root)\n")

/-- Tells the facts of the system that programs ask for. -/
def getconf (given : Given) : Job Nat :=
  let facts : List (String × String) :=
    [("PATH", "/bin:/usr/bin"), ("ARG_MAX", "2097152"), ("PAGE_SIZE", "4096"),
      ("PAGESIZE", "4096"), ("_NPROCESSORS_ONLN", "4"), ("_NPROCESSORS_CONF", "4"),
      ("NPROCESSORS_ONLN", "4"), ("OPEN_MAX", "20000"), ("CHILD_MAX", "128620"),
      ("LONG_BIT", "64"), ("INT_MAX", "2147483647"), ("CLK_TCK", "100"), ("NAME_MAX", "255"),
      ("PATH_MAX", "4096"), ("PIPE_BUF", "4096")]
  match given.arguments with
  | [] => refuse given 2 (chars "usage: getconf variable")
  | name :: _ =>
      match facts.find? fun fact => fact.1.toList = name with
      | none => refuse given 2 (chars "Unrecognized variable \x60" ++ name ++ ['\''])
      | some fact => finish given 0 (chars fact.2 ++ ['\n'])

/-- Tells that there is no terminal. -/
def tty (given : Given) : Job Nat :=
  withChoices given [{ letter := 's', name := "silent" }] false 2 fun choices =>
    if choices.has 's' then pure 1 else finishWith given 1 3 (chars "not a tty\n")

/-- The characters that an escape after a backslash stands for, and what follows; none if the text
ends here. -/
def escaped (text : Bytes) : Option (Bytes × Bytes) :=
  let code (base limit : Nat) (isDigit : Char → Bool) (text : Bytes) : Bytes × Bytes :=
    let digits := (text.take limit).takeWhile isDigit
    let value := digits.foldl
      (fun value c =>
        let digit :=
          if c.isDigit then c.toNat - '0'.toNat else (c.toLower.toNat - 'a'.toNat) + 10
        base * value + digit)
      0
    ([Char.ofNat (value % 256)], text.drop digits.length)
  let isOctal (c : Char) : Bool := '0' ≤ c && c ≤ '7'
  let isHex (c : Char) : Bool := c.isDigit || ('a' ≤ c.toLower && c.toLower ≤ 'f')
  match text with
  | 'c' :: _ => none
  | 'a' :: rest => some ([Char.ofNat 7], rest)
  | 'b' :: rest => some ([Char.ofNat 8], rest)
  | 'e' :: rest => some ([Char.ofNat 27], rest)
  | 'f' :: rest => some ([Char.ofNat 12], rest)
  | 'n' :: rest => some (['\n'], rest)
  | 'r' :: rest => some (['\r'], rest)
  | 't' :: rest => some (['\t'], rest)
  | 'v' :: rest => some ([Char.ofNat 11], rest)
  | '\\' :: rest => some (['\\'], rest)
  | '0' :: rest => some (code 8 3 isOctal rest)
  | 'x' :: digit :: rest =>
      if isHex digit then some (code 16 2 isHex (digit :: rest))
      else some (['\\', 'x'], digit :: rest)
  | c :: rest => if isOctal c then some (code 8 3 isOctal text) else some (['\\', c], rest)
  | [] => some (['\\'], [])

/-- A text with its escapes replaced, and whether it ends the output.  The first argument bounds
its length. -/
def unescaped : Nat → Bytes → Bytes × Bool
  | 0, text => (text, false)
  | _, [] => ([], false)
  | fuel + 1, '\\' :: text =>
      match escaped text with
      | none => ([], true)
      | some (bytes, rest) =>
          let (others, isOver) := unescaped fuel rest
          (bytes ++ others, isOver)
  | fuel + 1, c :: rest =>
      let (others, isOver) := unescaped fuel rest
      (c :: others, isOver)

/-- Writes its arguments. -/
def echo (given : Given) : Job Nat :=
  let isOption (word : Bytes) : Bool :=
    match word with
    | '-' :: c :: rest => (c :: rest).all fun c => c = 'n' || c = 'e' || c = 'E'
    | _ => false
  let options := given.arguments.takeWhile isOption
  let letters := options.flatten
  let text := [' '].intercalate (given.arguments.drop options.length)
  let expands := (letters.filter fun c => c = 'e' || c = 'E').getLast? = some 'e'
  let (shown, isOver) := if expands then unescaped (text.length + 1) text else (text, false)
  finish given 0 (if isOver || letters.contains 'n' then shown else shown ++ ['\n'])

/-- Takes input in blocks.  The first argument bounds their number. -/
def readBlocks (descriptor size : Nat) : Nat → List Bytes → Job (Except Errno Bytes)
  | 0, blocks => pure (.ok blocks.reverse.flatten)
  | fuel + 1, blocks => do
      match ← Job.ask (.read descriptor size false) with
      | .error errno => pure (.error errno)
      | .ok [] => pure (.ok blocks.reverse.flatten)
      | .ok block => readBlocks descriptor size fuel (block :: blocks)

/-- Copies blocks. -/
def dd (given : Given) : Job Nat := do
  let names := ["if", "of", "bs", "ibs", "obs", "count", "skip", "seek", "conv", "status", "iflag",
    "oflag", "cbs"].map String.toList
  let settings := given.arguments.map fun word =>
    let name := word.takeWhile (· ≠ '=')
    (name, word.drop (name.length + 1))
  let value? (name : String) : Option Bytes := settings.reverse.lookup (chars name)
  let stranger? := given.arguments.find? fun word =>
    !(word.contains '=' && names.contains (word.takeWhile (· ≠ '=')))
  let amounts := ["bs", "ibs", "obs", "count", "skip", "seek"].filterMap value?
  match stranger?, amounts.find? fun text => (amount? text).isNone with
  | some word, _ => refuse given 1 (chars "unrecognized operand '" ++ word ++ ['\''])
  | none, some text => refuse given 1 (chars "invalid number: '" ++ text ++ ['\''])
  | none, none => do
      let amountOf (name : String) (usual : Nat) : Nat :=
        ((value? name).bind amount?).getD usual
      let size := amountOf "bs" (amountOf "ibs" 512)
      let source : Except Errno Nat ←
        match value? "if" with
        | none => pure (.ok 0)
        | some path => openPath path OpenMode.forReading
      let keepsRest := (value? "conv").any fun text => (text.splitOn ',').contains (chars "notrunc")
      let target : Except Errno Nat ←
        match value? "of" with
        | none => pure (.ok 1)
        | some path =>
            let how : OpenMode :=
              { writing := true, create := true, truncate := !keepsRest && amountOf "seek" 0 = 0 }
            openPath path how
      match source, target with
      | .error errno, _ =>
          refuse given 1
            (chars "failed to open '" ++ (value? "if").getD [] ++ chars "': " ++ errno.text)
      | _, .error errno =>
          refuse given 1
            (chars "failed to open '" ++ (value? "of").getD [] ++ chars "': " ++ errno.text)
      | .ok source, .ok target => do
          let _ ← readBlocks source size (amountOf "skip" 0) []
          if 0 < amountOf "seek" 0 then
            let _ ← Job.ask (.seek target (amountOf "seek" 0 * amountOf "bs" 512 : Nat) .start)
          match ← readBlocks source size (amountOf "count" patience) [] with
          | .error errno =>
              refuse given 1
                (chars "error reading '" ++ (value? "if").getD [] ++ chars "': " ++ errno.text)
          | .ok text => do
              if ← writeTo target text then
                if value? "status" ≠ some (chars "none") then
                  let note := digits text.length ++ chars " bytes copied\n"
                  let _ ← writeTo 2 note
                pure 0
              else
                refuse given 1
                  (chars "error writing '" ++ (value? "of").getD (chars "standard output") ++
                    ['\''])

end Tool

end Cadence
