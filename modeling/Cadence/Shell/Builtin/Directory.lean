import Cadence.Shell.Builtin.Options

namespace Cadence

namespace Shell

open Host

/-!
# Where a shell works

The current directory, the mask of the modes of new files, and the limits of what
a process may use.  The shell remembers the path on which it has reached its
directory: `..` leads back on that path, and not to the directory above the one
that a link has led to.
-/

namespace Running

/-- A path without its last name. -/
def withoutLast (isDouble : Bool) (path : List Char) : List Char :=
  let least := if isDouble then 2 else 1
  let shorter := (path.reverse.dropWhile (· ≠ '/')).drop 1 |>.reverse
  if shorter.length < least then path.take least else shorter

/-- Follows names on a path: `.` stays and `..` goes back. -/
def followNames (isDouble : Bool) : List Char → List (List Char) → List Char
  | path, [] => path
  | path, name :: rest =>
      if name = ['.'] then
        followNames isDouble path rest
      else if name = ['.', '.'] then
        followNames isDouble (withoutLast isDouble path) rest
      else
        let joined := if path.getLast? = some '/' then path ++ name else path ++ '/' :: name
        followNames isDouble joined rest

/-- The path that leads from a directory to another one. -/
def logicalPath (directory path : List Char) : List Char :=
  let names := (path.splitOn '/').filter fun name => !name.isEmpty
  let startsDouble (path : List Char) : Bool :=
    match path with
    | ['/', '/'] => true
    | '/' :: '/' :: c :: _ => c ≠ '/'
    | _ => false
  if path.head? = some '/' then
    if startsDouble path then followNames true ['/', '/'] names else followNames false ['/'] names
  else
    followNames (startsDouble directory) directory names

/-- Remembers the current directory. -/
def setDirectory (path : List Char) (former : Option (List Char)) : Running Unit := do
  match former with
  | none => pure ()
  | some former =>
      setValue (chars "OLDPWD") former
      markParameter (chars "OLDPWD") fun parameter => { parameter with isExported := true }
  modify fun store => { store with directory := some path }
  setValue (chars "PWD") path
  markParameter (chars "PWD") fun parameter => { parameter with isExported := true }

/-- The current directory without links. -/
def physicalDirectory : Running (List Char) := do
  match ← ask .currentDirectory with
  | .ok path => pure path
  | .error _ => pure []

/-- Whether options ask for paths without links. -/
def isPhysical (given : List OptionGiven) : Bool :=
  given.getLast?.any fun option => option.letter = 'P'

/-- Goes to a directory; the answer is whether that is possible. -/
def enter (physical : Bool) (path : List Char) : Running Bool := do
  let former := (← get).directory
  let logical : Option (List Char) :=
    if physical then none
    else if path.head? = some '/' then some (logicalPath [] path)
    else former.map fun directory => logicalPath directory path
  match ← ask (.changeDirectory (logical.getD path)) with
  | .error _ => pure false
  | .ok _ =>
      let reached ←
        match logical with
        | some path => pure path
        | none => physicalDirectory
      setDirectory reached (some (former.getD []))
      pure true

/-- The first directory of a search path in which a directory is found, with whether it is to be
told. -/
def searchDirectory (target : List Char) : List (List Char) → Running (Option (List Char × Bool))
  | [] => pure none
  | place :: rest => do
      let candidate := if place.isEmpty then target else place ++ '/' :: target
      match ← ask (.status candidate true) with
      | .ok status =>
          if status.kind = .directory then
            pure (some (candidate, !place.isEmpty))
          else
            searchDirectory target rest
      | .error _ => searchDirectory target rest

/-- Whether a path is not searched for. -/
def isAnchored (path : List Char) : Bool :=
  match path with
  | '/' :: _ | ['.'] | '.' :: '/' :: _ | ['.', '.'] | '.' :: '.' :: '/' :: _ => true
  | _ => false

/-- Changes the current directory. -/
def changeDirectory (arguments : List (List Char)) : Running Nat := do
  let (given, operands) ← takeOptions "LP" arguments
  let physical := isPhysical given
  let (target, isTold) ←
    match operands with
    | [] => do pure ((← valueOf? (chars "HOME")).getD [], false)
    | ['-'] :: _ => do pure ((← valueOf? (chars "OLDPWD")).getD [], true)
    | target :: _ => pure (target, false)
  let tell (isTold : Bool) : Running Nat := do
    if isTold then
      say ((← get).directory.getD [] ++ ['\n'])
    pure 0
  let refuse : Running Nat := fault (chars "can't cd to " ++ target)
  if isAnchored target then
    if ← enter physical target then tell isTold else refuse
  else
    let sought := if target.isEmpty then ['.'] else target
    let places := (← valueOf? (chars "CDPATH")).map fun text => text.splitOn ':'
    match ← searchDirectory sought (places.getD []) with
    | some (path, isElsewhere) =>
        if ← enter physical path then tell (isTold || isElsewhere) else refuse
    | none => if ← enter physical sought then tell isTold else refuse

/-- Writes the current directory. -/
def writeDirectory (arguments : List (List Char)) : Running Nat := do
  let (given, _) ← takeOptions "LP" arguments
  let path ←
    if isPhysical given then physicalDirectory else do pure ((← get).directory.getD [])
  say (path ++ ['\n'])
  pure 0

/-- Octal digits, at least four. -/
def octalText (mode : Nat) : List Char :=
  let digits := Nat.toDigits 8 mode
  List.replicate (4 - digits.length) '0' ++ digits

/-- What a mask leaves to the user, the group and the others, in letters. -/
def symbolicMask (mask : Nat) : List Char :=
  let part (name : Char) (shift : Nat) : List Char :=
    let bits := mask / Nat.pow 2 shift % 8
    let letters := [('r', 4), ('w', 2), ('x', 1)].filterMap fun (letter, bit) =>
      if bits &&& bit = 0 then some letter else none
    name :: '=' :: letters
  part 'u' 6 ++ ',' :: part 'g' 3 ++ ',' :: part 'o' 0

/-- The bits of twelve that are not in a number. -/
def inverted (mode : Nat) : Nat :=
  (mode % 0o10000) ^^^ 0o7777

/-- A change of modes that is being read. -/
structure ModeChange where
  /-- The modes as they were, and as they are now. -/
  former : Nat
  current : Nat
  /-- A bit for each of those whose rights change. -/
  places : Nat := 0

/-- The bits for the letters of those whose rights change. -/
def modePlaces (letters : List Char) : Nat :=
  letters.foldl
    (fun places letter =>
      places ||| match letter with
        | 'u' => 0o100
        | 'g' => 0o010
        | 'o' => 0o001
        | _ => 0o111)
    0

/-- The rights that letters stand for. -/
def modeRights (former : Nat) (letters : List Char) : Nat :=
  letters.foldl
    (fun rights letter =>
      rights ||| match letter with
        | 'r' => 4
        | 'w' => 2
        | 'x' => 1
        | 'u' => former / 64
        | 'g' => former / 8
        | 'o' => former
        | 'X' => if former &&& 0o111 = 0 then 0 else 1
        | _ => 0)
    0 % 8

/-- Reads changes of modes; none if they cannot be read.  The first argument bounds their length. -/
def changeModes : Nat → ModeChange → List Char → Option Nat
  | 0, _, _ => none
  | _, change, [] => some change.current
  | fuel + 1, change, text =>
      let who := text.takeWhile fun c => "augo".toList.contains c
      let afterWho := text.drop who.length
      let named := change.places ||| modePlaces who
      let places := if named = 0 then 0o111 else named
      match afterWho with
      | sign :: rest =>
          if sign = '=' || sign = '+' || sign = '-' then
            let letters := rest.takeWhile fun c => "rwxugoXs".toList.contains c
            let after := rest.drop letters.length
            let rights := modeRights change.former letters * places
            let current :=
              match sign with
              | '-' => change.current &&& inverted rights
              | '=' => rights ||| (change.current &&& inverted (places * 7))
              | _ => change.current ||| rights
            match after with
            | ',' :: after => changeModes fuel ⟨change.former, current, 0⟩ after
            | [] => some current
            | c :: _ =>
                if c = '=' || c = '+' || c = '-' then
                  changeModes fuel ⟨change.former, current, places⟩ after
                else
                  none
          else
            none
      | [] => some change.current

/-- Shows or sets the mask of the modes of new files. -/
def fileMask (arguments : List (List Char)) : Running Nat := do
  let (given, operands) ← takeOptions "S" arguments
  let mask ← ask (.fileMask none)
  match operands with
  | [] =>
      say ((if given.isEmpty then octalText mask else symbolicMask mask) ++ ['\n'])
      pure 0
  | text :: _ =>
      if text.head?.any Char.isDigit then
        if text.all fun c => '0' ≤ c && c ≤ '7' then
          let _ ← ask (.fileMask (some (Numeral.valueOf 8 text % 0o1000)))
          pure 0
        else
          fault (chars "Illegal number: " ++ text)
      else
        let allowed := inverted mask
        match changeModes (text.length + 1) ⟨allowed, allowed, 0⟩ text with
        | none => fault (chars "Illegal mode: " ++ text)
        | some current =>
            let _ ← ask (.fileMask (some (inverted current % 0o1000)))
            pure 0

/-- The limits by their letters: what they are called and the size of their units. -/
def limitTable : List (Char × String × Resource × Nat) :=
  [('t', "time(seconds)        ", .processorTime, 1),
    ('f', "file(blocks)         ", .fileSize, 512),
    ('d', "data(kbytes)         ", .dataSize, 1024),
    ('s', "stack(kbytes)        ", .stackSize, 1024),
    ('c', "coredump(blocks)     ", .coreSize, 512),
    ('m', "memory(kbytes)       ", .residentSize, 1024),
    ('l', "locked memory(kbytes) ", .lockedMemory, 1024),
    ('p', "process              ", .processes, 1),
    ('n', "nofiles              ", .openFiles, 1),
    ('v', "vmemory(kbytes)      ", .addressSpace, 1024),
    ('w', "locks                ", .fileLocks, 1),
    ('r', "rtprio               ", .realTimePriority, 1)]

/-- An allowance in units. -/
def limitText (limit : Limit) (isHard : Bool) (unit : Nat) : List Char :=
  match if isHard then limit.hard else limit.soft with
  | none => chars "unlimited\n"
  | some value => Numeral.digits (value / unit) ++ ['\n']

/-- Whether a bound is greater than another one. -/
def exceeds (first second : Option Nat) : Bool :=
  match first, second with
  | _, none => false
  | none, some _ => true
  | some first, some second => second < first

/-- Shows or sets limits. -/
def limits (arguments : List (List Char)) : Running Nat := do
  let (given, operands) ← takeOptions "HSatfdscmlpnvwr" arguments
  let letters := given.map OptionGiven.letter
  let kinds := letters.filter fun letter => letter = 'H' || letter = 'S'
  let setsHard := kinds.isEmpty || kinds.getLast? = some 'H'
  let setsSoft := kinds.isEmpty || kinds.getLast? = some 'S'
  let showsHard := !setsSoft
  let others := letters.filter fun letter => letter ≠ 'H' && letter ≠ 'S'
  let isAll := others.contains 'a'
  match operands with
  | [] =>
      if isAll then
        limitTable.forM fun (_, title, resource, unit) => do
          say (chars title ++ limitText (← ask (.limit resource)) showsHard unit)
      else
        let letter := others.getLastD 'f'
        limitTable.forM fun (known, _, resource, unit) => do
          if known = letter then
            say (limitText (← ask (.limit resource)) showsHard unit)
      pure 0
  | text :: rest =>
      if isAll || !rest.isEmpty then
        fault (chars "too many arguments")
      let letter := others.getLastD 'f'
      let wanted : Option Nat ←
        if text = chars "unlimited" then
          pure none
        else if text.all Char.isDigit then
          pure (some (Numeral.valueOf 10 text))
        else
          fault (chars "bad number")
      match limitTable.find? fun entry => entry.1 = letter with
      | none => pure 0
      | some (_, _, resource, unit) =>
          let former ← ask (.limit resource)
          let value := wanted.map (· * unit)
          let limit : Limit :=
            ⟨if setsSoft then value else former.soft, if setsHard then value else former.hard⟩
          if exceeds limit.soft limit.hard then
            fault (chars "error setting limit (" ++ Errno.invalid.text ++ [')'])
          else if exceeds limit.hard former.hard then
            fault (chars "error setting limit (" ++ Errno.notPermitted.text ++ [')'])
          else
            let _ ← ask (.setLimit resource limit)
            pure 0

end Running

end Shell

end Cadence
