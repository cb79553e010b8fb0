import Cadence.Tool.Date
import Cadence.Tool.Mode
import Cadence.Tool.Paths

namespace Cadence

namespace Tool

open Host

/-!
# Tools that change files

They make, copy, move and remove files and directories, one operand after the
other; what cannot be done is complained about, and the others are still tried.
-/

/-- Does something with each of some operands; the answer is whether all went well. -/
def forAll (body : Bytes → Job Bool) : List Bytes → Job Bool
  | [] => pure true
  | operand :: rest => do
      let isDone ← body operand
      let areOthers ← forAll body rest
      pure (isDone && areOthers)

/-- The status of a tool by whether all went well. -/
def statusOf (isDone : Bool) : Nat :=
  if isDone then 0 else 1

/-- Complains that something cannot be done with a file. -/
def failWith (given : Given) (what : String) (path reason : Bytes) : Job Bool := do
  complain given (chars what ++ chars " '" ++ path ++ '\'' :: reason)
  pure false

/-- Complains that something is refused with a file. -/
def fail (given : Given) (what : String) (path : Bytes) (errno : Errno) : Job Bool :=
  failWith given what path (chars ": " ++ errno.text)

/-- The result of a request about a file; a refusal is complained about. -/
def check (given : Given) (what : String) (path : Bytes) (result : Except Errno Unit) : Job Bool :=
  match result with
  | .ok _ => pure true
  | .error errno => fail given what path errno

/-- What is told about a file, if it is there. -/
def statusAt? (path : Bytes) (follow : Bool) : Job (Option FileStatus) := do
  pure (← Job.ask (.status path follow)).toOption

/-- Whether a path leads to a directory. -/
def isDirectory (path : Bytes) : Job Bool := do
  pure ((← statusAt? path true).any fun status => status.kind = .directory)

/-- Reads the arguments of a tool that works on files, and does something with each of them; it
needs at least one. -/
def withFiles (given : Given) (known : List Known) (body : Choices → Bytes → Job Bool) :
    Job Nat :=
  withChoices given known false 1 fun choices => do
    if choices.operands.isEmpty then
      misuse given 1 (chars "missing operand")
    else
      pure (statusOf (← forAll (body choices) choices.operands))

/-- How a new directory or file is to be made. -/
structure NewMode where
  mask : Nat
  text : Option Bytes

/-- Sets the mode of something new; the answer is whether that went well. -/
def setNewMode (given : Given) (new : NewMode) (isDirectory : Bool) (path : Bytes) : Job Bool :=
  match new.text with
  | none => pure true
  | some text => do
      let usual := if isDirectory then 0o777 else 0o666
      match Mode.change? isDirectory new.mask usual text with
      | none => pure true
      | some mode =>
          check given "cannot set permissions of" path (← Job.ask (.changeMode path mode))

/-- Makes a directory, and on request those above it. -/
def makeDirectories (given : Given) (new : NewMode) : List Bytes → Bytes → Job Bool
  | [], path => do
      match ← Job.ask (.makeDirectory path 0o777) with
      | .ok _ => setNewMode given new true path
      | .error errno =>
          if errno = .alreadyExists && (← isDirectory path) then
            pure true
          else
            fail given "cannot create directory" path errno
  | above :: rest, path => do
      match ← Job.ask (.makeDirectory above 0o777) with
      | .ok _ => makeDirectories given new rest path
      | .error errno =>
          if ← isDirectory above then
            makeDirectories given new rest path
          else
            fail given "cannot create directory" above errno

/-- The paths of the directories above a path, the highest first. -/
def directoriesAbove (path : Bytes) : List Bytes :=
  let slashes := (List.range path.length).filter fun index => 0 < index && path[index]? = some '/'
  (slashes.map path.take).filter fun above =>
    above.getLast? ≠ some '/' && above.length < (withoutSlashes path).length

/-- The options of tools that make something with a mode. -/
def modeOption : Known :=
  { letter := 'm', name := "mode", takesArgument := true }

/-- Reads a mode for something new. -/
def withNewMode (given : Given) (choices : Choices) (body : NewMode → Job Nat) : Job Nat := do
  let mask ← Job.ask (.fileMask none)
  let text := choices.argument? 'm'
  match text.filter fun text => (Mode.change? false mask 0 text).isNone with
  | some text => refuse given 1 (chars "invalid mode '" ++ text ++ ['\''])
  | none => body ⟨mask, text⟩

/-- Makes directories. -/
def mkdir (given : Given) : Job Nat :=
  let known : List Known :=
    [{ letter := 'p', name := "parents" }, { letter := 'v', name := "verbose" }, modeOption]
  withChoices given known false 1 fun choices => do
    if choices.operands.isEmpty then
      misuse given 1 (chars "missing operand")
    else
      withNewMode given choices fun new => do
        let make (path : Bytes) : Job Bool :=
          if choices.has 'p' then
            makeDirectories given new (directoriesAbove path) path
          else do
            match ← Job.ask (.makeDirectory path 0o777) with
            | .ok _ => setNewMode given new true path
            | .error errno => fail given "cannot create directory" path errno
        pure (statusOf (← forAll make choices.operands))

/-- Makes named pipes. -/
def mkfifo (given : Given) : Job Nat :=
  withChoices given [modeOption] false 1 fun choices => do
    if choices.operands.isEmpty then
      misuse given 1 (chars "missing operand")
    else
      withNewMode given choices fun new => do
        let make (path : Bytes) : Job Bool := do
          match ← Job.ask (.makeFifo path 0o666) with
          | .ok _ => setNewMode given new false path
          | .error errno => fail given "cannot create fifo" path errno
        pure (statusOf (← forAll make choices.operands))

/-- Removes directories, the lowest first. -/
def removeDirectories (given : Given) : List Bytes → Job Bool
  | [] => pure true
  | path :: rest => do
      match ← Job.ask (.removeDirectory path) with
      | .ok _ => removeDirectories given rest
      | .error errno => fail given "failed to remove" path errno

/-- Removes empty directories. -/
def rmdir (given : Given) : Job Nat :=
  let known : List Known :=
    [{ letter := 'p', name := "parents" }, { letter := 'v', name := "verbose" },
      { letter := 'i', name := "ignore-fail-on-non-empty" }]
  withFiles given known fun choices path =>
    if choices.has 'p' then
      removeDirectories given (path :: (directoriesAbove path).reverse)
    else do
      match ← Job.ask (.removeDirectory path) with
      | .ok _ => pure true
      | .error errno =>
          if errno = .notEmpty && choices.has 'i' then pure true
          else fail given "failed to remove" path errno

/-- Removes a file, or a directory with what is in it.  The first argument bounds the depth. -/
def removeTree (given : Given) (isForced : Bool) : Nat → Bytes → Job Bool
  | 0, _ => pure false
  | fuel + 1, path => do
      match ← Job.ask (.status path false) with
      | .error errno =>
          if isForced && (errno = .noEntry || errno = .notDirectory) then pure true
          else fail given "cannot remove" path errno
      | .ok status =>
          if status.kind = .directory then
            match ← Job.ask (.entries path) with
            | .error errno => fail given "cannot remove" path errno
            | .ok names =>
                let removeName (name : Bytes) : Job Bool :=
                  removeTree given isForced fuel (under path name)
                if ← forAll removeName names then
                  check given "cannot remove" path (← Job.ask (.removeDirectory path))
                else
                  pure false
          else
            check given "cannot remove" path (← Job.ask (.remove path))

/-- Removes files, and on request directories. -/
def rm (given : Given) : Job Nat :=
  let known : List Known :=
    [{ letter := 'r', name := "recursive" }, { letter := 'R' }, { letter := 'f', name := "force" },
      { letter := 'i' }, { letter := 'I' }, { letter := 'v', name := "verbose" },
      { letter := 'd', name := "dir" }]
  withChoices given known false 1 fun choices => do
    let isForced := choices.has 'f'
    let isWhole := choices.has 'r' || choices.has 'R'
    let removeOne (path : Bytes) : Job Bool := do
      let name := lastName [] path
      if isWhole && (name = ['.'] || name = ['.', '.']) then
        failWith given "refusing to remove '.' or '..' directory: skipping" path []
      else if isWhole && withoutSlashes path = ['/'] then do
        complain given (chars "it is dangerous to operate recursively on '/'")
        complain given (chars "use --no-preserve-root to override this failsafe")
        pure false
      else if isWhole then
        removeTree given isForced patience path
      else
        match ← Job.ask (.status path false) with
        | .error errno =>
            if isForced && (errno = .noEntry || errno = .notDirectory) then pure true
            else fail given "cannot remove" path errno
        | .ok status =>
            if status.kind = .directory then
              if choices.has 'd' then
                check given "cannot remove" path (← Job.ask (.removeDirectory path))
              else
                fail given "cannot remove" path .isDirectory
            else
              check given "cannot remove" path (← Job.ask (.remove path))
    if choices.operands.isEmpty && !isForced then
      misuse given 1 (chars "missing operand")
    else
      pure (statusOf (← forAll removeOne choices.operands))

/-- Removes one file. -/
def unlink (given : Given) : Job Nat :=
  withChoices given [] false 1 fun choices => do
    match choices.operands with
    | [] => misuse given 1 (chars "missing operand")
    | [path] => pure (statusOf (← check given "cannot unlink" path (← Job.ask (.remove path))))
    | _ :: extra :: _ => misuse given 1 (chars "extra operand '" ++ extra ++ ['\''])

/-- The time that options of `touch` tell. -/
def timeOf (choices : Choices) (now : Nat) : Job (Except Bytes Nat) := do
  let invalid (text : Bytes) : Except Bytes Nat :=
    .error (chars "invalid date format '" ++ text ++ ['\''])
  match choices.argument? 'r', choices.argument? 'd', choices.argument? 't' with
  | some path, _, _ => do
      match ← Job.ask (.status path true) with
      | .ok status => pure (.ok status.modified)
      | .error errno =>
          pure (.error
            (chars "failed to get attributes of '" ++ path ++ chars "': " ++ errno.text))
  | none, some text, _ =>
      pure (((Moment.read? now text).map fun time => .ok time.toNat).getD (invalid text))
  | none, none, some text =>
      pure (((Moment.stamp? now text).map fun time => .ok time.toNat).getD (invalid text))
  | none, none, none => pure (.ok now)

/-- Makes files, or sets the time of their last change. -/
def touch (given : Given) : Job Nat :=
  let known : List Known :=
    [{ letter := 'c', name := "no-create" }, { letter := 'h', name := "no-dereference" },
      { letter := 'r', name := "reference", takesArgument := true },
      { letter := 'd', name := "date", takesArgument := true },
      { letter := 't', takesArgument := true }] ++ switches "amf"
  withChoices given known false 1 fun choices => do
    match ← timeOf choices (← Job.ask .clock) with
    | .error reason => refuse given 1 reason
    | .ok time =>
        let touchOne (path : Bytes) : Job Bool := do
          match ← Job.ask (.status path true) with
          | .ok _ => check given "setting times of" path (← Job.ask (.changeTime path time))
          | .error _ =>
              if choices.has 'c' then
                pure true
              else
                match ← Job.ask (.openFile path { writing := true, create := true } 0o666) with
                | .error errno => fail given "cannot touch" path errno
                | .ok descriptor => do
                    let _ ← Job.ask (.close descriptor)
                    check given "setting times of" path (← Job.ask (.changeTime path time))
        if choices.operands.isEmpty then
          misuse given 1 (chars "missing file operand")
        else
          pure (statusOf (← forAll touchOne choices.operands))

/-- Changes the modes of files, and on request of what is in directories.  The first argument
bounds the depth. -/
def changeTree (given : Given) (isWhole isQuiet : Bool) (mask : Nat) (text : Bytes) :
    Nat → Bytes → Job Bool
  | 0, _ => pure true
  | fuel + 1, path => do
      match ← Job.ask (.status path true) with
      | .error errno => if isQuiet then pure false else fail given "cannot access" path errno
      | .ok status =>
          let isDirectory := status.kind = .directory
          let mode := (Mode.change? isDirectory mask status.mode text).getD status.mode
          let isDone ←
            check given "changing permissions of" path (← Job.ask (.changeMode path mode))
          if isWhole && isDirectory then
            match ← Job.ask (.entries path) with
            | .error errno => fail given "cannot read directory" path errno
            | .ok names =>
                let changeName (name : Bytes) : Job Bool :=
                  changeTree given isWhole isQuiet mask text fuel (under path name)
                pure (isDone && (← forAll changeName names))
          else
            pure isDone

/-- Changes the modes of files.  A mode may look like an option. -/
def chmod (given : Given) : Job Nat :=
  let looksLikeMode (argument : Bytes) : Bool :=
    match argument with
    | '-' :: c :: rest => (c :: rest).all fun c => (chars "rwxXstugoa,+-=01234567").contains c
    | _ => false
  let front := given.arguments.takeWhile fun argument => argument ≠ ['-', '-']
  let mode? := front.find? looksLikeMode
  let arguments :=
    match mode? with
    | none => given.arguments
    | some mode => given.arguments.erase mode
  let known : List Known :=
    [{ letter := 'R', name := "recursive" }, { letter := 'f', name := "silent" },
      { letter := 'v', name := "verbose" }, { letter := 'c', name := "changes" },
      { letter := '=', name := "reference", takesArgument := true }]
  withChoices { given with arguments := arguments } known false 1 fun choices => do
    let mask ← Job.ask (.fileMask none)
    let pattern : Option Bytes ←
      match choices.argument? '=' with
      | none => pure none
      | some path => do
          pure ((← statusAt? path true).map fun status => Nat.toDigits 8 status.mode)
    let words := (mode?.orElse fun _ => pattern).toList ++ choices.operands
    match words with
    | [] => misuse given 1 (chars "missing operand")
    | [mode] => misuse given 1 (chars "missing operand after '" ++ mode ++ ['\''])
    | mode :: paths =>
        if (Mode.change? false mask 0 mode).isNone then
          misuse given 1 (chars "invalid mode: '" ++ mode ++ ['\''])
        else
          let change := changeTree given (choices.has 'R') (choices.has 'f') mask mode patience
          pure (statusOf (← forAll change paths))

/-- Leaves files to an owner, which must be there; all belong to one. -/
def chown (given : Given) : Job Nat :=
  withChoices given (switches "RfhvHLP") false 1 fun choices => do
    match choices.operands with
    | [] => misuse given 1 (chars "missing operand")
    | [owner] => misuse given 1 (chars "missing operand after '" ++ owner ++ ['\''])
    | _ :: paths =>
        let leave (path : Bytes) : Job Bool := do
          match ← Job.ask (.status path true) with
          | .ok _ => pure true
          | .error errno => fail given "cannot access" path errno
        pure (statusOf (← forAll leave paths))

/-- Where the operands of a tool that copies, moves or links are to go. -/
inductive Destination
  /-- Under their own names into a directory. -/
  | into (directory : Bytes)
  | to (path : Bytes)

/-- The path that a source gets. -/
def Destination.path (destination : Destination) (source : Bytes) : Bytes :=
  match destination with
  | .into directory => under directory (lastName [] source)
  | .to path => path

/-- The options about destinations. -/
def destinationOptions : List Known :=
  [{ letter := 't', name := "target-directory", takesArgument := true },
    { letter := 'T', name := "no-target-directory" }]

/-- Parts operands into sources and their destination, and does something with each source. -/
def withDestination (given : Given) (choices : Choices) (followsLast : Bool)
    (body : Destination → Bytes → Job Bool) : Job Nat := do
  match choices.argument? 't', choices.operands with
  | some directory, sources =>
      if ← isDirectory directory then
        pure (statusOf (← forAll (body (.into directory)) sources))
      else
        pure (statusOf (← fail given "target directory" directory .noEntry))
  | none, [] => misuse given 1 (chars "missing file operand")
  | none, [source] =>
      if followsLast then
        pure (statusOf (← body (.into ['.']) source))
      else
        misuse given 1 (chars "missing destination file operand after '" ++ source ++ ['\''])
  | none, operands =>
      let last := operands.getLastD []
      let sources := operands.dropLast
      if !choices.has 'T' && (← isDirectory last) then
        pure (statusOf (← forAll (body (.into last)) sources))
      else if 1 < sources.length then
        let errno : Errno := if (← statusAt? last true).isSome then .notDirectory else .noEntry
        pure (statusOf (← fail given "target" last errno))
      else
        pure (statusOf (← forAll (body (.to last)) sources))

/-- How files are copied. -/
structure CopyStyle where
  isWhole : Bool
  followsLinks : Bool
  keepsExisting : Bool
  keepsTime : Bool
  removesFirst : Bool

/-- Copies the content of a file. -/
def copyContent (given : Given) (style : CopyStyle) (status : FileStatus) (source target : Bytes) :
    Job Bool := do
  match ← readFile source with
  | .error errno => fail given "cannot open" source errno
  | .ok text => do
      if style.removesFirst then
        let _ ← Job.ask (.remove target)
      match ← Job.ask (.openFile target OpenMode.forWriting (status.mode &&& 0o777)) with
      | .error errno => fail given "cannot create regular file" target errno
      | .ok descriptor => do
          let isWritten ← writeTo descriptor text
          let _ ← Job.ask (.close descriptor)
          if style.keepsTime then
            let _ ← Job.ask (.changeTime target status.modified)
            let _ ← Job.ask (.changeMode target status.mode)
          if isWritten then pure true else fail given "error writing" target .noSpace

/-- Copies a file, or a directory with what is in it.  The first argument bounds the depth. -/
def copyTree (given : Given) (style : CopyStyle) : Nat → Bytes → Bytes → Job Bool
  | 0, _, _ => pure false
  | fuel + 1, source, target => do
      match ← Job.ask (.status source style.followsLinks) with
      | .error errno => fail given "cannot stat" source errno
      | .ok status => do
          let former ← statusAt? target true
          if former.any fun former => former.serial = status.serial then
            complain given
              ('\'' :: source ++ chars "' and '" ++ target ++ chars "' are the same file")
            pure false
          else if style.keepsExisting && former.isSome && status.kind ≠ .directory then
            pure true
          else
            match status.kind with
            | .directory =>
                if !style.isWhole then
                  failWith given "-r not specified; omitting directory" source []
                else if former.any fun former => former.kind ≠ .directory then
                  complain given
                    (chars "cannot overwrite non-directory '" ++ target ++
                      chars "' with directory '" ++ source ++ ['\''])
                  pure false
                else
                  match ← Job.ask (.entries source) with
                  | .error errno => fail given "cannot access" source errno
                  | .ok names => do
                      let made : Except Errno Unit ←
                        if former.isSome then pure (.ok ())
                        else Job.ask (.makeDirectory target (status.mode &&& 0o777))
                      match made with
                      | .error errno => fail given "cannot create directory" target errno
                      | .ok _ =>
                          let copyName (name : Bytes) : Job Bool :=
                            copyTree given style fuel (under source name) (under target name)
                          forAll copyName names
            | .link =>
                match ← Job.ask (.readLink source) with
                | .error errno => fail given "cannot read symbolic link" source errno
                | .ok text => do
                    let _ ← Job.ask (.remove target)
                    check given "cannot create symbolic link" target
                      (← Job.ask (.makeLink text target))
            | .fifo =>
                if style.isWhole then
                  check given "cannot create fifo" target
                    (← Job.ask (.makeFifo target status.mode))
                else
                  copyContent given style status source target
            | _ =>
                if former.any fun former => former.kind = .directory then
                  complain given
                    (chars "cannot overwrite directory '" ++ target ++
                      chars "' with non-directory '" ++ source ++ ['\''])
                  pure false
                else
                  copyContent given style status source target

/-- Copies files. -/
def cp (given : Given) : Job Nat :=
  let known : List Known :=
    destinationOptions ++
      [{ letter := 'r', name := "recursive" }, { letter := 'a', name := "archive" },
        { letter := 'f', name := "force" }, { letter := 'n', name := "no-clobber" },
        { letter := 'p', name := "preserve" }, { letter := 'L', name := "dereference" },
        { letter := 'P', name := "no-dereference" },
        { letter := '-', name := "remove-destination" }] ++ switches "Rdivulsx"
  withChoices given known false 1 fun choices => do
    let isWhole := choices.has 'r' || choices.has 'R' || choices.has 'a'
    let style : CopyStyle :=
      { isWhole := isWhole
        followsLinks :=
          choices.has 'L' || !(isWhole || choices.has 'P' || choices.has 'd')
        keepsExisting := choices.has 'n'
        keepsTime := choices.has 'p' || choices.has 'a'
        removesFirst := choices.has '-' }
    withDestination given choices false fun destination source =>
      copyTree given style patience source (destination.path source)

/-- Moves files. -/
def mv (given : Given) : Job Nat :=
  let known : List Known :=
    destinationOptions ++
      [{ letter := 'f', name := "force" }, { letter := 'n', name := "no-clobber" },
        { letter := 'v', name := "verbose" }, { letter := 'i' }, { letter := 'u' }]
  withChoices given known false 1 fun choices => do
    withDestination given choices false fun destination source => do
      let target := destination.path source
      match ← Job.ask (.status source false) with
      | .error errno => fail given "cannot stat" source errno
      | .ok status => do
          let former ← statusAt? target false
          if former.any fun former => former.serial = status.serial then
            complain given
              ('\'' :: source ++ chars "' and '" ++ target ++ chars "' are the same file")
            pure false
          else if choices.has 'n' && former.isSome then
            pure true
          else
            match ← Job.ask (.rename source target) with
            | .ok _ => pure true
            | .error .invalid =>
                failWith given "cannot move" source
                  (chars " to a subdirectory of itself, '" ++ target ++ ['\''])
            | .error .isDirectory =>
                complain given
                  (chars "cannot overwrite directory '" ++ target ++ chars "' with non-directory")
                pure false
            | .error .notDirectory =>
                complain given
                  (chars "cannot overwrite non-directory '" ++ target ++
                    chars "' with directory '" ++ source ++ ['\''])
                pure false
            | .error errno =>
                failWith given "cannot move" source
                  (chars " to '" ++ target ++ chars "': " ++ errno.text)

/-- Gives files other names. -/
def ln (given : Given) : Job Nat :=
  let known : List Known :=
    destinationOptions ++
      [{ letter := 's', name := "symbolic" }, { letter := 'f', name := "force" },
        { letter := 'n', name := "no-dereference" }, { letter := 'v', name := "verbose" },
        { letter := 'L' }, { letter := 'P' }, { letter := 'i' }]
  withChoices given known false 1 fun choices => do
    let isSymbolic := choices.has 's'
    let linkOne (destination : Destination) (source : Bytes) : Job Bool := do
      let target := destination.path source
      let removeFormer : Job Unit := do
        if choices.has 'f' then
          let _ ← Job.ask (.remove target)
      if isSymbolic then
        removeFormer
        check given "failed to create symbolic link" target (← Job.ask (.makeLink source target))
      else
        match ← Job.ask (.status source false) with
        | .error errno => fail given "failed to access" source errno
        | .ok status =>
            if status.kind = .directory then
              complain given (source ++ chars ": hard link not allowed for directory")
              pure false
            else do
              removeFormer
              check given "failed to create hard link" target (← Job.ask (.link source target))
    let isPlain ←
      match choices.operands with
      | [_, last] =>
          pure (choices.has 'n' &&
            (← statusAt? last false).any fun status => status.kind = .link)
      | _ => pure false
    let settled :=
      if isPlain then { choices with options := ⟨'T', []⟩ :: choices.options } else choices
    withDestination given settled true linkOne

/-- Gives a file one more name. -/
def link (given : Given) : Job Nat :=
  withChoices given [] false 1 fun choices => do
    match choices.operands with
    | [source, target] =>
        match ← Job.ask (.link source target) with
        | .ok _ => pure 0
        | .error errno =>
            refuse given 1
              (chars "cannot create link '" ++ target ++ chars "' to '" ++ source ++ chars "': " ++
                errno.text)
    | _ :: _ :: extra :: _ => misuse given 1 (chars "extra operand '" ++ extra ++ ['\''])
    | _ => misuse given 1 (chars "missing operand")

/-- A letter or a digit for a byte. -/
def letterOf (c : Char) : Char :=
  (chars "abcdefghijklmnopqrstuvwxyzABCDEFGHIJKLMNOPQRSTUVWXYZ0123456789").getD (c.toNat % 62) 'a'

/-- So many random letters. -/
def randomLetters (count : Nat) : Job Bytes := do
  match ← Job.ask (.openFile (chars "/dev/urandom") OpenMode.forReading 0) with
  | .error _ => pure (List.replicate count 'a')
  | .ok descriptor => do
      let bytes ← Job.ask (.read descriptor count false)
      let _ ← Job.ask (.close descriptor)
      pure ((bytes.toOption.getD []).map letterOf)

/-- Makes a file or a directory under a new name that a template tells. -/
def mktemp (given : Given) : Job Nat :=
  let known : List Known :=
    [{ letter := 'd', name := "directory" }, { letter := 'u', name := "dry-run" },
      { letter := 'q', name := "quiet" }, { letter := 't' },
      { letter := 'p', name := "tmpdir", takesArgument := true },
      { letter := 's', name := "suffix", takesArgument := true }]
  withChoices given known false 1 fun choices => do
    let usual := (given.surroundings.lookup (chars "TMPDIR")).getD (chars "/tmp")
    let named := choices.operands.headD (chars "tmp.XXXXXXXXXX")
    let isPlaced := choices.operands.isEmpty || choices.has 'p' || choices.has 't'
    let ending := (choices.argument? 's').getD []
    let reversed := named.reverse
    let after := if choices.has 's' then [] else reversed.takeWhile (· ≠ 'X')
    let marks := (reversed.drop after.length).takeWhile (· = 'X')
    let front := (reversed.drop (after.length + marks.length)).reverse
    if marks.length < 3 then
      refuse given 1 (chars "too few X's in template '" ++ named ++ ['\''])
    else do
      let name := front ++ (← randomLetters marks.length) ++ after.reverse ++ ending
      let path :=
        if isPlaced then under ((choices.argument? 'p').getD usual) name else name
      let isTree := choices.has 'd'
      let made : Except Errno Unit ←
        if choices.has 'u' then
          pure (.ok ())
        else if isTree then
          Job.ask (.makeDirectory path 0o700)
        else do
          match ← Job.ask (.openFile path OpenMode.forNewFile 0o600) with
          | .ok descriptor => Job.ask (.close descriptor)
          | .error errno => pure (.error errno)
      match made with
      | .ok _ => finish given 0 (path ++ ['\n'])
      | .error errno =>
          let kind := if isTree then "directory" else "file"
          refuse given 1
            (chars "failed to create " ++ chars kind ++ chars " via template '" ++ path ++
              chars "': " ++ errno.text)

/-- Sets the sizes of files. -/
def truncate (given : Given) : Job Nat :=
  let known : List Known :=
    [{ letter := 'c', name := "no-create" }, { letter := 'o', name := "io-blocks" },
      { letter := 's', name := "size", takesArgument := true }]
  withChoices given known false 1 fun choices => do
    let text := (choices.argument? 's').getD ['0']
    let (sign, digits) : Option Char × Bytes :=
      match text with
      | '+' :: rest => (some '+', rest)
      | '-' :: rest => (some '-', rest)
      | rest => (none, rest)
    let setSize (size : Nat) (path : Bytes) : Job Bool := do
      let former ← statusAt? path true
      if former.isNone && choices.has 'c' then
        pure true
      else
        let length := (former.map FileStatus.size).getD 0
        let wanted :=
          match sign with
          | some '+' => length + size
          | some _ => length - size
          | none => size
        let text ← if length = 0 then pure (.ok []) else readFile path
        match text with
        | .error errno => fail given "cannot open" path errno
        | .ok text =>
            match ← Job.ask (.openFile path OpenMode.forWriting 0o666) with
            | .error errno =>
                failWith given "cannot open" path (chars " for writing: " ++ errno.text)
            | .ok descriptor => do
                let kept := text.take wanted
                let whole := kept ++ List.replicate (wanted - kept.length) (Char.ofNat 0)
                let _ ← writeTo descriptor whole
                let _ ← Job.ask (.close descriptor)
                pure true
    match choices.has 's', number? digits, choices.operands with
    | false, _, _ => misuse given 1 (chars "you must specify either '--size' or '--reference'")
    | true, none, _ => refuse given 1 (chars "Invalid number: '" ++ text ++ ['\''])
    | true, some _, [] => misuse given 1 (chars "missing file operand")
    | true, some size, paths => pure (statusOf (← forAll (setSize size) paths))

end Tool

end Cadence
