import Cadence.Tool.Basic

namespace Cadence

namespace Tool

open Host

/-!
# Tools about paths

They take paths apart, and find where paths lead.
-/

/-- The path of a name in a directory. -/
def under (directory name : Bytes) : Bytes :=
  if directory.getLast? = some '/' then directory ++ name else directory ++ '/' :: name

/-- A path without the slashes at its end. -/
def withoutSlashes (path : Bytes) : Bytes :=
  let trimmed := (path.reverse.dropWhile (· = '/')).reverse
  if trimmed.isEmpty && !path.isEmpty then ['/'] else trimmed

/-- The last name of a path, without an ending. -/
def lastName (ending path : Bytes) : Bytes :=
  let trimmed := withoutSlashes path
  let name := if trimmed = ['/'] then trimmed else
    (trimmed.reverse.takeWhile (· ≠ '/')).reverse
  if name ≠ ending && !ending.isEmpty && ending.reverse.isPrefixOf name.reverse then
    name.take (name.length - ending.length)
  else
    name

/-- Writes the last names of paths. -/
def basename (given : Given) : Job Nat :=
  let known : List Known :=
    [{ letter := 'a', name := "multiple" }, { letter := 's', takesArgument := true },
      { letter := 'z', name := "zero" }]
  withChoices given known true 1 fun choices => do
    let stop := if choices.has 'z' then Char.ofNat 0 else '\n'
    match choices.operands with
    | [] => misuse given 1 (chars "missing operand")
    | operands =>
        if choices.has 'a' || choices.has 's' then
          let ending := (choices.argument? 's').getD []
          finish given 0 (operands.flatMap fun path => lastName ending path ++ [stop])
        else
          match operands with
          | _ :: _ :: extra :: _ => misuse given 1 (chars "extra operand '" ++ extra ++ ['\''])
          | path :: rest => finish given 0 (lastName (rest.headD []) path ++ [stop])
          | [] => pure 1

/-- A path without its last name. -/
def directoryOf (path : Bytes) : Bytes :=
  let trimmed := withoutSlashes path
  if trimmed = ['/'] then
    trimmed
  else
    let front := (trimmed.reverse.dropWhile (· ≠ '/')).reverse
    if front.isEmpty then ['.'] else withoutSlashes front

/-- Writes paths without their last names. -/
def dirname (given : Given) : Job Nat :=
  withChoices given [{ letter := 'z', name := "zero" }] true 1 fun choices => do
    let stop := if choices.has 'z' then Char.ofNat 0 else '\n'
    if choices.operands.isEmpty then
      misuse given 1 (chars "missing operand")
    else
      finish given 0 (choices.operands.flatMap fun path => directoryOf path ++ [stop])

/-- Which names of a path must be there. -/
inductive Presence
  | all
  | allButLast
  | none
  deriving DecidableEq, Repr

/-- Follows names from a directory whose path leads through no link.  The first argument bounds
their number, and that of the names in links. -/
def followNames (presence : Presence) :
    Nat → Bytes → List Bytes → Job (Except Errno Bytes)
  | 0, _, _ => pure (.error .tooManyLinks)
  | _, here, [] => pure (.ok (if here.isEmpty then ['/'] else here))
  | fuel + 1, here, name :: rest => do
      if name = ['.'] then
        followNames presence fuel here rest
      else if name = ['.', '.'] then
        let above := directoryOf here
        followNames presence fuel (if above = ['/'] || here.isEmpty then [] else above) rest
      else
        let path := here ++ '/' :: name
        match ← Job.ask (.status path false) with
        | .error errno =>
            if presence = .none then
              followNames presence fuel path rest
            else if presence = .allButLast && rest.isEmpty && errno = .noEntry then
              pure (.ok path)
            else
              pure (.error errno)
        | .ok status =>
            if status.kind = .link then
              match ← Job.ask (.readLink path) with
              | .error _ => followNames presence fuel path rest
              | .ok target =>
                  let start := if target.head? = some '/' then [] else here
                  followNames presence fuel start (Files.names target ++ rest)
            else if status.kind = .directory || rest.isEmpty || presence = .none then
              followNames presence fuel path rest
            else
              pure (.error .notDirectory)

/-- The path without links to where a path leads. -/
def canonical (presence : Presence) (path : Bytes) : Job (Except Errno Bytes) := do
  let bound := Files.pathBound * Files.mostLinks
  if path.isEmpty then
    pure (.error .noEntry)
  else if path.head? = some '/' then
    followNames presence bound [] (Files.names path)
  else
    match ← Job.ask .currentDirectory with
    | .error errno => pure (.error errno)
    | .ok here => followNames presence bound [] (Files.names here ++ Files.names path)

/-- The presence that options ask for. -/
def presenceOf (choices : Choices) (usual : Presence) : Presence :=
  match choices.last? ['e', 'f', 'm', 'E'] with
  | some 'e' => .all
  | some 'f' => .allButLast
  | some 'm' => .none
  | _ => usual

/-- Writes what a function finds out about paths; complaints are made on request. -/
def writeFound (given : Given) (stop : Bytes) (isLoud : Bool)
    (find : Bytes → Job (Except Errno Bytes)) : Nat → List Bytes → Job Nat
  | status, [] => pure status
  | status, path :: rest => do
      match ← find path with
      | .ok found => do
          writeOrEnd given 1 (found ++ stop)
          writeFound given stop isLoud find status rest
      | .error errno => do
          if isLoud then
            complainAbout given path errno
          writeFound given stop isLoud find 1 rest

/-- Options about presence. -/
def presenceOptions : List Known :=
  [{ letter := 'e', name := "canonicalize-existing" },
    { letter := 'm', name := "canonicalize-missing" }, { letter := 'q', name := "quiet" },
    { letter := 's', name := "silent" }, { letter := 'v', name := "verbose" },
    { letter := 'z', name := "zero" }]

/-- Tells where links lead. -/
def readlink (given : Given) : Job Nat :=
  let known := presenceOptions ++
    [{ letter := 'f', name := "canonicalize" }, { letter := 'n', name := "no-newline" }]
  withChoices given known false 1 fun choices => do
    let stop :=
      if choices.has 'z' then [Char.ofNat 0] else if choices.has 'n' then [] else ['\n']
    let isFollowing := choices.has 'f' || choices.has 'e' || choices.has 'm'
    let find (path : Bytes) : Job (Except Errno Bytes) :=
      if isFollowing then canonical (presenceOf choices .allButLast) path
      else Job.ask (.readLink path)
    if choices.operands.isEmpty then
      misuse given 1 (chars "missing operand")
    else
      writeFound given stop (choices.has 'v') find 0 choices.operands

/-- Tells the paths without links to where paths lead. -/
def realpath (given : Given) : Job Nat :=
  let known := presenceOptions ++
    [{ letter := 'E', name := "canonicalize" }, { letter := 'L', name := "logical" },
      { letter := 'P', name := "physical" }]
  withChoices given known false 1 fun choices => do
    let stop := if choices.has 'z' then Char.ofNat 0 else '\n'
    if choices.operands.isEmpty then
      misuse given 1 (chars "missing operand")
    else
      writeFound given [stop] (!choices.has 'q') (canonical (presenceOf choices .allButLast)) 0
        choices.operands

end Tool

end Cadence
