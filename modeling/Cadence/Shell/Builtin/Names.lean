import Cadence.Shell.Builtin.Options

namespace Cadence

namespace Shell

open Host

/-!
# What a command name stands for

A name is a function, a built-in command or a program, in this order.  Programs
are looked for in the directories of the search path.
-/

/-- The built-in commands. -/
inductive Builtin
  | colon
  | dot
  | bracket
  | alias
  | bg
  | break
  | cd
  | command
  | continue
  | echo
  | eval
  | exec
  | exit
  | export
  | false
  | fg
  | getopts
  | hash
  | jobs
  | kill
  | local
  | printf
  | pwd
  | read
  | readonly
  | return
  | set
  | shift
  | test
  | times
  | trap
  | true
  | type
  | ulimit
  | umask
  | unalias
  | unset
  | wait
  deriving DecidableEq, Repr

namespace Builtin

/-- The built-in commands by their names. -/
def names : List (String × Builtin) :=
  [(":", .colon), (".", .dot), ("[", .bracket), ("alias", .alias), ("bg", .bg),
    ("break", .break), ("cd", .cd), ("chdir", .cd), ("command", .command),
    ("continue", .continue), ("echo", .echo), ("eval", .eval), ("exec", .exec),
    ("exit", .exit), ("export", .export), ("false", .false), ("fg", .fg),
    ("getopts", .getopts), ("hash", .hash), ("jobs", .jobs), ("kill", .kill),
    ("local", .local), ("printf", .printf), ("pwd", .pwd), ("read", .read),
    ("readonly", .readonly), ("return", .return), ("set", .set), ("shift", .shift),
    ("test", .test), ("times", .times), ("trap", .trap), ("true", .true), ("type", .type),
    ("ulimit", .ulimit), ("umask", .umask), ("unalias", .unalias), ("unset", .unset),
    ("wait", .wait)]

/-- The names with their characters. -/
def table : List (List Char × Builtin) :=
  names.map fun entry => (entry.1.toList, entry.2)

/-- The built-in command of a name. -/
def ofName? (name : List Char) : Option Builtin :=
  (table.find? fun entry => entry.1 = name).map Prod.snd

/-- Whether the operands of a command that are assignments are not split. -/
def takesAssignments : Builtin → Bool
  | .alias | .export | .local | .readonly => Bool.true
  | _ => Bool.false

/-- Whether errors in a command end the shell. -/
def isSpecial : Builtin → Bool
  | .colon | .dot | .break | .continue | .eval | .exec | .exit | .export | .local | .readonly
  | .return | .set | .shift | .times | .trap | .unset => Bool.true
  | _ => Bool.false

end Builtin

namespace Running

/-- The directories in which programs are looked for. -/
def searchPath : Running (List (List Char)) := do
  pure (((← valueOf? (chars "PATH")).map fun text => text.splitOn ':').getD [])

/-- The directories of a search path of which every system has the programs. -/
def standardPath : List (List Char) :=
  ["/usr/sbin", "/usr/bin", "/sbin", "/bin"].map String.toList

/-- A name in a directory; an empty directory is the current one. -/
def inDirectory (directory name : List Char) : List Char :=
  if directory.isEmpty then name else directory ++ '/' :: name

/-- What looking for a program has found. -/
inductive Sought
  | program (path : List Char)
  /-- A file that may not be executed. -/
  | refused
  | missing
  deriving DecidableEq, Repr

/-- Looks for a program in directories. -/
def seek (name : List Char) (refused : Bool) : List (List Char) → Running Sought
  | [] => pure (if refused then .refused else .missing)
  | directory :: rest => do
      let path := inDirectory directory name
      match ← ask (.status path true) with
      | .error errno =>
          seek name (refused || (errno ≠ .noEntry && errno ≠ .notDirectory)) rest
      | .ok status =>
          if status.kind = .regular && status.mode &&& 0o111 ≠ 0 then
            pure (.program path)
          else
            seek name true rest

/-- Looks for the program of a name, and remembers where it is. -/
def locateProgram (name : List Char) (directories : List (List Char)) : Running Sought := do
  if name.contains '/' then
    pure (.program name)
  else
    match (← get).found.lookup name with
    | some path => pure (.program path)
    | none =>
        let sought ← seek name false directories
        match sought with
        | .program path =>
            modify fun store => { store with found := store.found ++ [(name, path)] }
        | _ => pure ()
        pure sought

/-- Says what a name stands for; the status is 127 if it stands for nothing. -/
def describe (name : List Char) (isVerbose : Bool) (directories? : Option (List (List Char))) :
    Running Nat := do
  let tell (brief verbose : List Char) : Running Nat := do
    say ((if isVerbose then name ++ verbose else brief) ++ ['\n'])
    pure 0
  let store ← get
  if (Keyword.ofText? name).isSome then
    tell name (chars " is a shell keyword")
  else
    match store.aliases.lookup name with
    | some text =>
        let quoted := name ++ chars "='" ++ text ++ chars "'"
        tell (chars "alias " ++ quoted) (chars " is an alias for " ++ text)
    | none =>
        if (store.functions.lookup name).isSome then
          tell name (chars " is a shell function")
        else
          match Builtin.ofName? name with
          | some builtin =>
              let kind := if builtin.isSpecial then " is a special shell builtin"
                else " is a shell builtin"
              tell name (chars kind)
          | none =>
              let missing : Running Nat := do
                if isVerbose then
                  say (name ++ chars ": not found\n")
                pure 127
              let isTracked := (store.found.lookup name).isSome && directories?.isNone
              let directories ←
                match directories? with
                | some directories => pure directories
                | none => searchPath
              match ← locateProgram name directories with
              | .program path =>
                  if name.contains '/' then
                    match ← ask (.status name true) with
                    | .ok _ => tell name (chars " is " ++ name)
                    | .error _ => missing
                  else
                    let kind := if isTracked then " is a tracked alias for " else " is "
                    tell path (chars kind ++ path)
              | _ => missing

/-- Says what names stand for. -/
def describeAll (arguments : List (List Char)) : Running Nat := do
  let statuses ← arguments.mapM fun name => describe name true none
  pure (if statuses.contains 127 then 127 else 0)

/-- Says what the name stands for that follows the options of `command`. -/
def describeCommand (arguments : List (List Char)) : Running Nat := do
  let (given, operands) ← takeOptions "pvV" arguments
  let asks := given.any fun option => option.letter ≠ 'p'
  let isVerbose := given.any fun option => option.letter = 'V'
  let isStandard := given.any fun option => option.letter = 'p'
  match operands with
  | name :: _ =>
      if asks then
        describe name isVerbose (if isStandard then some standardPath else none)
      else
        pure 0
  | [] => pure 0

/-- Shows, forgets or looks for the programs that have been found. -/
def hashCommand (arguments : List (List Char)) : Running Nat := do
  let (given, operands) ← takeOptions "r" arguments
  if !given.isEmpty then
    modify fun store => { store with found := [] }
    pure 0
  else if operands.isEmpty then
    (← get).found.forM fun entry => say (entry.2 ++ ['\n'])
    pure 0
  else
    let statuses ← operands.mapM fun name => do
      let isKnown := (Builtin.ofName? name).isSome || ((← get).functions.lookup name).isSome
      if isKnown then
        pure 0
      else
        match ← locateProgram name (← searchPath) with
        | .program _ => pure 0
        | _ =>
            warn (name ++ chars ": not found")
            pure 1
    pure (if statuses.contains 1 then 1 else 0)

end Running

end Shell

end Cadence
