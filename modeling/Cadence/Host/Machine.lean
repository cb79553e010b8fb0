import Cadence.Host.Channel

namespace Cadence

namespace Host

/-!
# The machine

A machine runs processes.  Each process has its own time, and the one that is
behind goes first; a request takes a little time, and a process that cannot be
answered yet is blocked until something happens or its deadline comes.
-/

/-- What a process of the machine is doing. -/
inductive Activity
  | ready (process : Process)
  /-- Its request cannot be answered yet. -/
  | blocked (process : Process) (deadline : Option Nat)
  | over (ending : Ending)

/-- A process as the machine knows it. -/
structure Entry where
  number : Nat
  parent : Nat
  group : Nat
  activity : Activity
  time : Nat
  directory : Nat
  descriptors : List (Nat × Descriptor)
  mask : Nat
  dispositions : List (Signal × Disposition) := []
  /-- The caught signals that have not been asked for. -/
  caught : List Signal := []
  /-- The signal that is about to end it. -/
  fatal : Option Signal := none
  isStopped : Bool := false
  limits : List (Resource × Limit) := []

/-- The machine: its processes, files, open files and pipes. -/
structure Machine where
  clock : Nat
  entries : List Entry
  files : Files
  openFiles : List (Nat × OpenFile) := []
  pipes : Array Pipe := #[]
  nextFile : Nat := 0
  nextProcess : Nat
  /-- The processes that were there before and are not run. -/
  strangers : List Nat
  /-- Where random bytes come from. -/
  seed : Nat := 1
  /-- Whether blocked processes may be able to go on. -/
  hasNews : Bool := false

/-- The answer to a request: a value, or that there is none yet. -/
inductive Reply (α : Type)
  | done (value : α) (machine : Machine) (caller : Entry)
  | pending (deadline : Option Nat)

namespace Entry

/-- What the process has said about a signal. -/
def disposition (entry : Entry) (signal : Signal) : Disposition :=
  (entry.dispositions.lookup signal).getD .default

/-- The process after it has said what to do with a signal. -/
def setDisposition (entry : Entry) (signal : Signal) (disposition : Disposition) : Entry :=
  let others := entry.dispositions.filter fun known => known.1 ≠ signal
  { entry with
    dispositions :=
      if disposition = .default || !signal.isMaskable then others
      else (signal, disposition) :: others }

/-- Whether the process has ended. -/
def isOver (entry : Entry) : Bool :=
  match entry.activity with
  | .over _ => true
  | _ => false

/-- The signal that ends a process after one more has come: the first one.  Only an interrupt is
noticed so late, when a shell has just been copied, that another signal comes before it. -/
def laterFatal (earlier : Option Signal) (signal : Signal) : Signal :=
  match earlier with
  | some first => if first = Signal.interrupt then signal else first
  | none => signal

/-- The process when a signal arrives. -/
def receive (entry : Entry) (signal : Signal) : Entry :=
  if entry.isOver then
    entry
  else
    let continued :=
      if signal = Signal.resume ∨ signal = Signal.kill then
        { entry with isStopped := false }
      else
        entry
    match continued.disposition signal with
    | .ignored => continued
    | .caught =>
        if continued.caught.contains signal then
          continued
        else
          { continued with caught := continued.caught ++ [signal] }
    | .default =>
        match Signal.effect signal with
        | .terminate => { continued with fatal := some (laterFatal continued.fatal signal) }
        | .stop => { continued with isStopped := true }
        | _ => continued

/-- The open file of a descriptor. -/
def descriptor? (entry : Entry) (number : Nat) : Option Descriptor :=
  entry.descriptors.lookup number

/-- The allowance of a process. -/
def limit (entry : Entry) (resource : Resource) : Limit :=
  (entry.limits.lookup resource).getD ⟨none, none⟩

/-- Whether a descriptor may have a number. -/
def allows (entry : Entry) (number : Nat) : Bool :=
  match (entry.limit .openFiles).soft with
  | none => true
  | some bound => number < bound

/-- The least number not below `least` that no descriptor has. -/
def freeNumber (entry : Entry) (least : Nat) : Nat :=
  let isFree : Array Bool := Array.replicate (entry.descriptors.length + 1) true
  let marked := entry.descriptors.foldl
    (fun isFree known =>
      if least ≤ known.1 then isFree.setIfInBounds (known.1 - least) false else isFree)
    isFree
  least + (marked.idxOf? true).getD 0

/-- Whether a process is to be woken at a time, and when. -/
def wakeTime? (entry : Entry) : Option Nat :=
  if entry.isStopped then
    none
  else
    match entry.activity with
    | .ready _ => some entry.time
    | .blocked _ deadline => deadline.map (max entry.time)
    | .over _ => none

/-- A process that has been sent a signal that ends it, which it notices at a time. -/
def doom (entry : Entry) (time : Nat) : Entry :=
  match entry.activity with
  | .blocked process _ => { entry with activity := .ready process, time := max entry.time time }
  | _ => { entry with time := max entry.time time }

/-- A blocked process that tries again. -/
def wake (entry : Entry) (now : Nat) : Entry :=
  match entry.activity with
  | .blocked process _ => { entry with activity := .ready process, time := max entry.time now }
  | _ => entry

end Entry

namespace Machine

/-- What a request takes, in nanoseconds. -/
def requestCost : Nat := 1000

/-- What it takes to start a child. -/
def forkCost : Nat := 100000

/-- How long it takes until a process notices that a signal ends it. -/
def signalCost : Nat := 150000

/-- What it takes to become another program. -/
def executeCost : Nat := 400000

/-- The open file of a number. -/
def openFile? (machine : Machine) (file : Nat) : Option OpenFile :=
  machine.openFiles.lookup file

/-- Changes an open file. -/
def modifyOpenFile (machine : Machine) (file : Nat) (change : OpenFile → OpenFile) : Machine :=
  { machine with
    openFiles := machine.openFiles.map fun known =>
      if known.1 = file then (file, change known.2) else known }

/-- The pipe of a number. -/
def pipe (machine : Machine) (number : Nat) : Pipe :=
  machine.pipes.getD number {}

/-- Changes a pipe. -/
def modifyPipe (machine : Machine) (number : Nat) (change : Pipe → Pipe) : Machine :=
  { machine with pipes := machine.pipes.modify number change }

/-- Whether an open file leads to a channel. -/
def hasOpen (machine : Machine) (channel : Channel) : Bool :=
  machine.openFiles.any fun known => known.2.channel = channel

/-- One more descriptor stands for an open file. -/
def hold (machine : Machine) (file : Nat) : Machine :=
  machine.modifyOpenFile file fun opened => { opened with holders := opened.holders + 1 }

/-- One descriptor less stands for an open file; without any it is closed. -/
def release (machine : Machine) (file : Nat) : Machine :=
  match machine.openFile? file with
  | none => machine
  | some opened =>
      if 1 < opened.holders then
        machine.modifyOpenFile file fun opened => { opened with holders := opened.holders - 1 }
      else
        { machine with
          openFiles := machine.openFiles.filter fun known => known.1 ≠ file
          hasNews := true }

/-- The open file of a descriptor of a process. -/
def openedBy? (machine : Machine) (caller : Entry) (number : Nat) : Option (Nat × OpenFile) :=
  match caller.descriptor? number with
  | none => none
  | some descriptor =>
      (machine.openFile? descriptor.file).map fun opened => (descriptor.file, opened)

/-- Gives a process a descriptor for an open file. -/
def describe (machine : Machine) (caller : Entry) (opened : OpenFile) : Reply (Except Errno Nat) :=
  let number := caller.freeNumber 0
  if caller.allows number then
    .done (.ok number)
      { machine with
        openFiles := (machine.nextFile, opened) :: machine.openFiles
        nextFile := machine.nextFile + 1
        hasNews := true }
      { caller with descriptors := (number, ⟨machine.nextFile, false⟩) :: caller.descriptors }
  else
    .done (.error .tooManyFiles) machine caller

/-- A new pipe. -/
def addPipe (machine : Machine) : Nat × Machine :=
  (machine.pipes.size, { machine with pipes := machine.pipes.push {} })

/-- The next random number. -/
def nextSeed (seed : Nat) : Nat :=
  (6364136223846793005 * seed + 1442695040888963407) % Nat.pow 2 64

/-- So many random bytes, and where the next ones come from. -/
def randomBytes : Nat → Nat → List Char × Nat
  | 0, seed => ([], seed)
  | count + 1, seed =>
      let next := nextSeed seed
      let (bytes, final) := randomBytes count next
      (Char.ofNat (next / Nat.pow 2 33 % 256) :: bytes, final)

/-- The most bytes a device gives at once. -/
def deviceBlock : Nat := 65536

/-- Reads from an open file. -/
def read (machine : Machine) (caller : Entry) (number limit : Nat) (byLine : Bool) :
    Reply (Except Errno (List Char)) :=
  match machine.openedBy? caller number with
  | none => .done (.error .badDescriptor) machine caller
  | some (file, opened) =>
      if !opened.reading then
        .done (.error .badDescriptor) machine caller
      else
        match opened.channel with
        | .file index =>
            match machine.files.content index with
            | .regular data =>
                let (taken, _) := takeSome limit byLine (data.drop opened.position)
                let moved := opened.position + taken.length
                .done (.ok taken)
                  (machine.modifyOpenFile file fun opened => { opened with position := moved })
                  caller
            | .program name =>
                let data := ("\x7fELF" ++ name ++ "\n").toList.drop opened.position
                let (taken, _) := takeSome limit byLine data
                let moved := opened.position + taken.length
                .done (.ok taken)
                  (machine.modifyOpenFile file fun opened => { opened with position := moved })
                  caller
            | _ => .done (.error .isDirectory) machine caller
        | .device device _ =>
            match device with
            | .zero | .full =>
                .done (.ok (List.replicate (min limit deviceBlock) (Char.ofNat 0))) machine caller
            | .random =>
                let (bytes, seed) := randomBytes (min limit deviceBlock) machine.seed
                let taken := (takeSome limit byLine bytes).1
                .done (.ok taken) { machine with seed := seed } caller
            | .null | .terminal => .done (.ok []) machine caller
        | .reader pipe =>
            let settled := (machine.pipe pipe).settle
            if settled.size = 0 then
              if machine.hasOpen (.writer pipe) then
                if byLine && !caller.caught.isEmpty then
                  .done (.error .interrupted) machine caller
                else
                  .pending none
              else
                .done (.ok []) machine caller
            else
              let (taken, rest) := takeSome limit byLine settled.sooner
              let left := settled.size - taken.length
              .done (.ok taken)
                { machine.modifyPipe pipe (fun _ => { settled with sooner := rest, size := left })
                  with hasNews := true }
                caller
        | .writer _ => .done (.error .badDescriptor) machine caller

/-- Puts bytes at a place in a text; a gap before it is filled with bytes 0. -/
def overwrite (data : List Char) (position : Nat) (bytes : List Char) : List Char :=
  let before := data.take position
  before ++ List.replicate (position - before.length) (Char.ofNat 0) ++ bytes ++
    data.drop (position + bytes.length)

/-- Writes to an open file. -/
def write (machine : Machine) (caller : Entry) (number : Nat) (bytes : List Char) :
    Reply (Except Errno Nat) :=
  match machine.openedBy? caller number with
  | none => .done (.error .badDescriptor) machine caller
  | some (file, opened) =>
      if !opened.writing then
        .done (.error .badDescriptor) machine caller
      else
        match opened.channel with
        | .file index =>
            match machine.files.content index with
            | .regular data =>
                let position := if opened.append then data.length else opened.position
                let written := .regular (overwrite data position bytes)
                let changed :=
                  { machine with files := machine.files.setContent index written machine.clock }
                let moved := position + bytes.length
                .done (.ok bytes.length)
                  (changed.modifyOpenFile file fun opened => { opened with position := moved })
                  caller
            | .program _ =>
                let changed :=
                  { machine with
                    files := machine.files.setContent index (.regular bytes) machine.clock }
                let moved := bytes.length
                .done (.ok bytes.length)
                  (changed.modifyOpenFile file fun opened => { opened with position := moved })
                  caller
            | _ => .done (.error .isDirectory) machine caller
        | .device .full _ => .done (.error .noSpace) machine caller
        | .device _ _ => .done (.ok bytes.length) machine caller
        | .writer pipe =>
            if !machine.hasOpen (.reader pipe) then
              .done (.error .brokenPipe) machine (caller.receive Signal.brokenPipe)
            else
              let room := Pipe.capacity - (machine.pipe pipe).size
              let wanted := bytes.length
              if wanted ≤ room then
                .done (.ok wanted)
                  { machine.modifyPipe pipe (·.add bytes wanted) with hasNews := true }
                  caller
              else if room < Pipe.atomic || wanted ≤ Pipe.atomic then
                .pending none
              else
                .done (.ok room)
                  { machine.modifyPipe pipe (·.add (bytes.take room) room) with hasNews := true }
                  caller
        | .reader _ => .done (.error .badDescriptor) machine caller

/-- Moves the position in an open file. -/
def seek (machine : Machine) (caller : Entry) (number : Nat) (offset : Int) (origin : Origin) :
    Reply (Except Errno Nat) :=
  match machine.openedBy? caller number with
  | none => .done (.error .badDescriptor) machine caller
  | some (file, opened) =>
      match opened.channel with
      | .file index =>
          let base : Nat :=
            match origin with
            | .start => 0
            | .current => opened.position
            | .stop => (machine.files.content index).size
          let target := (base : Int) + offset
          if target < 0 then
            .done (.error .invalid) machine caller
          else
            .done (.ok target.toNat)
              (machine.modifyOpenFile file fun opened =>
                { opened with position := target.toNat })
              caller
      | .device _ _ => .done (.ok 0) machine caller
      | _ => .done (.error .illegalSeek) machine caller

/-- Opens an end of a named pipe. -/
def openFifo (machine : Machine) (caller : Entry) (index : Nat) (known : Option Nat)
    (how : OpenMode) : Reply (Except Errno Nat) :=
  let (pipe, made) : Nat × Machine :=
    match known with
    | some pipe => (pipe, machine)
    | none =>
        let (pipe, grown) := machine.addPipe
        (pipe,
          { grown with
            files := grown.files.setContent index (.fifo (some pipe)) grown.clock })
  let before := made.pipe pipe
  if how.writing then
    (made.modifyPipe pipe fun pipe =>
      { pipe with writersOpened := pipe.writersOpened + 1 }).describe caller
      { channel := .writer pipe
        reading := how.reading
        writing := true
        peersBefore := if how.reading then 0 else before.readersOpened + 1 }
  else
    (made.modifyPipe pipe fun pipe =>
      { pipe with readersOpened := pipe.readersOpened + 1 }).describe caller
      { channel := .reader pipe
        reading := true
        writing := false
        peersBefore := before.writersOpened + 1 }

/-- Opens the file of a node. -/
def openNode (machine : Machine) (caller : Entry) (index : Nat) (how : OpenMode) :
    Reply (Except Errno Nat) :=
  let opened (channel : Channel) : OpenFile :=
    { channel := channel, reading := how.reading, writing := how.writing, append := how.append }
  match machine.files.content index with
  | .regular _ =>
      let emptied :=
        if how.truncate then
          { machine with files := machine.files.setContent index (.regular []) machine.clock }
        else
          machine
      emptied.describe caller (opened (.file index))
  | .program _ => machine.describe caller (opened (.file index))
  | .directory .. | .descriptors _ =>
      if how.writing || how.create then
        .done (.error .isDirectory) machine caller
      else
        machine.describe caller (opened (.file index))
  | .device .terminal => .done (.error .noDevice) machine caller
  | .device device => machine.describe caller (opened (.device device index))
  | .fifo known => machine.openFifo caller index known how
  | .link _ => .done (.error .tooManyLinks) machine caller

/-- Opens what an open file leads to once more. -/
def reopen (machine : Machine) (caller : Entry) (opened : OpenFile) (how : OpenMode) :
    Reply (Except Errno Nat) :=
  match opened.channel with
  | .file index => machine.openNode caller index how
  | .device device index =>
      machine.describe caller
        { channel := .device device index, reading := how.reading, writing := how.writing }
  | .reader pipe | .writer pipe =>
      machine.describe caller
        { channel := if how.writing then .writer pipe else .reader pipe
          reading := how.reading
          writing := how.writing }

/-- Opens the file at a path. -/
def openPath (machine : Machine) (caller : Entry) (path : List Char) (how : OpenMode)
    (mode : Nat) : Reply (Except Errno Nat) :=
  match machine.files.locate caller.directory path true with
  | .error errno => .done (.error errno) machine caller
  | .ok location =>
      match location.place with
      | .node index =>
          if how.create && how.exclusive then
            .done (.error .alreadyExists) machine caller
          else
            machine.openNode caller index how
      | .descriptor number =>
          match machine.openedBy? caller number with
          | none => .done (.error .noEntry) machine caller
          | some (_, opened) => machine.reopen caller opened how
      | .vacancy =>
          if how.create && machine.files.isAttached location.directory then
            let allowed := mode &&& (0o777 ^^^ (caller.mask &&& 0o777))
            let (index, files) :=
              machine.files.make location.directory location.name (.regular []) allowed
                machine.clock
            { machine with files := files }.openNode caller index how
          else
            .done (.error .noEntry) machine caller

/-- Waits for the other end of a named pipe. -/
def awaitPeer (machine : Machine) (caller : Entry) (number : Nat) : Reply (Except Errno Nat) :=
  match machine.openedBy? caller number with
  | none => .done (.error .badDescriptor) machine caller
  | some (_, opened) =>
      let isMet : Bool :=
        opened.peersBefore = 0 ||
          match opened.channel with
          | .reader pipe =>
              machine.hasOpen (.writer pipe) ||
                opened.peersBefore ≤ (machine.pipe pipe).writersOpened
          | .writer pipe =>
              machine.hasOpen (.reader pipe) ||
                opened.peersBefore ≤ (machine.pipe pipe).readersOpened
          | _ => true
      if isMet then .done (.ok number) machine caller else .pending none

/-- Closes a descriptor. -/
def close (machine : Machine) (caller : Entry) (number : Nat) : Reply (Except Errno Unit) :=
  match caller.descriptor? number with
  | none => .done (.error .badDescriptor) machine caller
  | some descriptor =>
      .done (.ok ()) (machine.release descriptor.file)
        { caller with descriptors := caller.descriptors.filter fun known => known.1 ≠ number }

/-- Gives a process a second descriptor for an open file. -/
def duplicate (machine : Machine) (caller : Entry) (number least : Nat) (closeOnExecute : Bool) :
    Reply (Except Errno Nat) :=
  match caller.descriptor? number with
  | none => .done (.error .badDescriptor) machine caller
  | some descriptor =>
      let free := caller.freeNumber least
      if caller.allows free then
        .done (.ok free) (machine.hold descriptor.file)
          { caller with
            descriptors := (free, ⟨descriptor.file, closeOnExecute⟩) :: caller.descriptors }
      else
        .done (.error (if caller.allows least then .tooManyFiles else .invalid)) machine caller

/-- Makes a descriptor stand for what another one stands for. -/
def replace (machine : Machine) (caller : Entry) (source target : Nat) :
    Reply (Except Errno Unit) :=
  match caller.descriptor? source with
  | none => .done (.error .badDescriptor) machine caller
  | some descriptor =>
      if !caller.allows target then
        .done (.error .badDescriptor) machine caller
      else if source = target then
        .done (.ok ()) machine caller
      else
        let held := machine.hold descriptor.file
        let freed :=
          match caller.descriptor? target with
          | none => held
          | some former => held.release former.file
        let others := caller.descriptors.filter fun known => known.1 ≠ target
        .done (.ok ()) freed
          { caller with descriptors := (target, ⟨descriptor.file, false⟩) :: others }

/-- Makes a pipe and gives a process descriptors for both ends. -/
def makePipe (machine : Machine) (caller : Entry) : Reply (Except Errno (Nat × Nat)) :=
  let first := caller.freeNumber 0
  let second := caller.freeNumber (first + 1)
  if !caller.allows second then
    .done (.error .tooManyFiles) machine caller
  else
    let (pipe, grown) := machine.addPipe
    let file := grown.nextFile
    .done (.ok (first, second))
      { grown with
        openFiles :=
          (file, { channel := .reader pipe, reading := true, writing := false }) ::
            (file + 1, { channel := .writer pipe, reading := false, writing := true }) ::
              grown.openFiles
        nextFile := file + 2 }
      { caller with
        descriptors := (first, ⟨file, false⟩) :: (second, ⟨file + 1, false⟩) ::
          caller.descriptors }

/-- What is told about an open file. -/
def statusOfChannel (machine : Machine) : Channel → FileStatus
  | .file index | .device _ index => machine.files.statusOf index
  | .reader pipe | .writer pipe =>
      { kind := .fifo, mode := 0o600, size := 0, serial := 1000000 + pipe, modified := 0 }

/-- What is told about the file at a path. -/
def status (machine : Machine) (caller : Entry) (path : List Char) (follow : Bool) :
    Except Errno FileStatus :=
  match machine.files.locate caller.directory path follow with
  | .error errno => .error errno
  | .ok location =>
      match location.place with
      | .node index => .ok (machine.files.statusOf index)
      | .vacancy => .error .noEntry
      | .descriptor number =>
          match machine.openedBy? caller number with
          | none => .error .noEntry
          | some (_, opened) =>
              if follow then
                .ok (machine.statusOfChannel opened.channel)
              else
                .ok { kind := .link, mode := 0o777, size := 64, serial := 2000000, modified := 0 }

/-- The number of the node at a path. -/
def nodeAt (machine : Machine) (caller : Entry) (path : List Char) (follow : Bool) :
    Except Errno Nat :=
  match machine.files.locate caller.directory path follow with
  | .error errno => .error errno
  | .ok ⟨_, _, .node index⟩ => .ok index
  | .ok _ => .error .noEntry

/-- Whether a process may use a file.  Everything may be read and written, but a program needs
leave to be executed. -/
def permitted (machine : Machine) (caller : Entry) (path : List Char) (access : Nat) :
    Except Errno Unit :=
  match machine.status caller path true with
  | .error errno => .error errno
  | .ok status =>
      if access &&& 1 ≠ 0 && status.kind ≠ .directory && status.mode &&& 0o111 = 0 then
        .error .accessDenied
      else
        .ok ()

/-- Makes something new at a path. -/
def makeAt (machine : Machine) (caller : Entry) (path : List Char) (mode : Nat)
    (content : Nat → Content) : Except Errno Machine :=
  let trimmed := (path.reverse.dropWhile (· = '/')).reverse
  match machine.files.locate caller.directory (if trimmed.isEmpty then path else trimmed) false with
  | .error errno => .error errno
  | .ok ⟨directory, name, .vacancy⟩ =>
      if machine.files.isAttached directory then
        let (_, files) :=
          machine.files.make directory name (content directory) mode machine.clock
        .ok { machine with files := files }
      else
        .error .noEntry
  | .ok _ => .error .alreadyExists

/-- Removes the directory at a path. -/
def removeDirectory (machine : Machine) (caller : Entry) (path : List Char) :
    Except Errno Machine :=
  match machine.files.locate caller.directory path false with
  | .error errno => .error errno
  | .ok location =>
      match location.place with
      | .node index =>
          match machine.files.content index with
          | .directory entries parent =>
              if (Files.names path).getLast? = some ['.'] && path.getLast? ≠ some '/' then
                .error .invalid
              else if index = 0 then
                .error .busy
              else if !entries.isEmpty then
                .error .notEmpty
              else
                match machine.files.content parent with
                | .directory siblings _ =>
                    match siblings.find? fun entry => entry.2 = index with
                    | none => .error .noEntry
                    | some entry =>
                        .ok { machine with
                              files := machine.files.erase parent entry.1 machine.clock }
                | _ => .error .noEntry
          | _ => .error .notDirectory
      | _ => .error .noEntry

/-- Removes the file at a path. -/
def remove (machine : Machine) (caller : Entry) (path : List Char) : Except Errno Machine :=
  match machine.files.locate caller.directory path false with
  | .error errno => .error errno
  | .ok location =>
      match location.place with
      | .node index =>
          if (machine.files.content index).isDirectory then
            .error .isDirectory
          else
            .ok { machine with
                  files := machine.files.erase location.directory location.name machine.clock }
      | _ => .error .noEntry

/-- Whether a directory is a node or below it. -/
def isBelow (files : Files) (node : Nat) : Nat → Nat → Bool
  | 0, _ => false
  | fuel + 1, here =>
      here = node ||
        match files.content here with
        | .directory _ parent => here ≠ 0 && isBelow files node fuel parent
        | _ => false

/-- Gives a file another name. -/
def rename (machine : Machine) (caller : Entry) (source target : List Char) :
    Except Errno Machine :=
  match machine.files.locate caller.directory source false,
      machine.files.locate caller.directory target false with
  | .error errno, _ => .error errno
  | _, .error errno => .error errno
  | .ok ⟨from_, name, .node index⟩, .ok ⟨into, newName, place⟩ =>
      let isDirectory := (machine.files.content index).isDirectory
      let move : Machine :=
        let taken := machine.files.erase from_ name machine.clock
        let entered := taken.enter into newName index machine.clock
        let adopted :=
          entered.modify index fun node =>
            match node.content with
            | .directory entries _ => { node with content := .directory entries into }
            | _ => node
        { machine with files := adopted }
      if isDirectory && isBelow machine.files index machine.files.nodes.size into then
        .error .invalid
      else
        match place with
        | .vacancy => .ok move
        | .descriptor _ => .error .notPermitted
        | .node former =>
            if former = index then
              .ok machine
            else
              match machine.files.content former with
              | .directory entries _ =>
                  if !isDirectory then
                    .error .isDirectory
                  else if entries.isEmpty then
                    .ok move
                  else
                    .error .notEmpty
              | .descriptors _ => .error .notPermitted
              | _ => if isDirectory then .error .notDirectory else .ok move
  | .ok _, .ok _ => .error .noEntry

/-- Gives a file a second name. -/
def link (machine : Machine) (caller : Entry) (source target : List Char) :
    Except Errno Machine :=
  match machine.nodeAt caller source false with
  | .error errno => .error errno
  | .ok index =>
      if (machine.files.content index).isDirectory then
        .error .notPermitted
      else
        match machine.files.locate caller.directory target false with
        | .error errno => .error errno
        | .ok ⟨directory, name, .vacancy⟩ =>
            .ok { machine with files := machine.files.enter directory name index machine.clock }
        | .ok _ => .error .alreadyExists

/-- Where a link leads. -/
def readLink (machine : Machine) (caller : Entry) (path : List Char) :
    Except Errno (List Char) :=
  match machine.nodeAt caller path false with
  | .error errno => .error errno
  | .ok index =>
      match machine.files.content index with
      | .link target => .ok target
      | _ => .error .invalid

/-- Whether a process belongs to those a signal is sent to. -/
def isTarget (caller : Entry) (target : Int) (entry : Entry) : Bool :=
  if 0 < target then
    entry.number = target.toNat
  else if target = 0 then
    entry.group = caller.group
  else if target = -1 then
    entry.number ≠ caller.number
  else
    entry.group = (-target).toNat

/-- Sends a signal to processes. -/
def kill (machine : Machine) (caller : Entry) (target : Int) (signal : Signal) :
    Reply (Except Errno Unit) :=
  let reaches := isTarget caller target
  let isFound :=
    reaches caller || machine.entries.any reaches ||
      (0 < target && machine.strangers.contains target.toNat)
  if Signal.last < signal then
    .done (.error .invalid) machine caller
  else if !isFound then
    .done (.error .noProcess) machine caller
  else if signal = 0 then
    .done (.ok ()) machine caller
  else
    .done (.ok ())
      { machine with
        entries := machine.entries.map fun entry =>
          if reaches entry then
            let received := entry.receive signal
            if received.fatal.isSome && entry.fatal.isNone then
              received.doom (machine.clock + signalCost)
            else
              received
          else
            entry
        hasNews := true }
      (if reaches caller then caller.receive signal else caller)

/-- Waits for a child to end. -/
def wait (machine : Machine) (caller : Entry) (child : Option Nat) (deadline : Option Nat)
    (isInterruptible : Bool) : Reply WaitOutcome :=
  let isChild := fun entry : Entry =>
    entry.parent = caller.number && child.all (· = entry.number)
  let ended := machine.entries.findSome? fun entry =>
    match entry.activity with
    | .over ending => if isChild entry then some (entry.number, ending) else none
    | _ => none
  match ended with
  | some (number, ending) =>
      .done (.ended number ending)
        { machine with entries := machine.entries.filter fun entry => entry.number ≠ number }
        caller
  | none =>
      if !machine.entries.any isChild then
        .done .noChildren machine caller
      else if isInterruptible && !caller.caught.isEmpty then
        .done .interrupted machine caller
      else if deadline.any (· ≤ machine.clock) then
        .done .timedOut machine caller
      else
        .pending deadline

/-- Becomes the program at a path: descriptors that are to be closed are closed, and signals are
no longer caught. -/
def execute (machine : Machine) (caller : Entry) (path : List Char) :
    Reply (Except Errno Executable) :=
  match machine.permitted caller path 1, machine.nodeAt caller path true with
  | .error errno, _ => .done (.error errno) machine caller
  | _, .error errno => .done (.error errno) machine caller
  | .ok _, .ok index =>
      let found : Except Errno Executable :=
        match machine.files.content index with
        | .program name => .ok (.program name)
        | .regular data => .ok (.script data)
        | _ => .error .accessDenied
      match found with
      | .error errno => .done (.error errno) machine caller
      | .ok executable =>
          let (closed, kept) := caller.descriptors.partition fun known => known.2.closeOnExecute
          .done (.ok executable)
            (closed.foldl (fun machine known => machine.release known.2.file) machine)
            { caller with
              descriptors := kept
              dispositions := caller.dispositions.filter fun known => known.2 ≠ .caught
              time := caller.time + executeCost }

/-- An answer that changes nothing. -/
def tell {α : Type} (machine : Machine) (caller : Entry) (value : α) : Reply α :=
  .done value machine caller

/-- The answer to a request that may change the machine. -/
def change (machine : Machine) (caller : Entry) (result : Except Errno Machine) :
    Reply (Except Errno Unit) :=
  match result with
  | .error errno => .done (.error errno) machine caller
  | .ok changed => .done (.ok ()) changed caller

/-- The answer to a request. -/
def answer (machine : Machine) (caller : Entry) : (request : Request) → Reply (Answer request)
  | .signals => .done caller.caught machine { caller with caught := [] }
  | .clock => machine.tell caller machine.clock
  | .sleepUntil time =>
      if time ≤ machine.clock then machine.tell caller true
      else if caller.caught.isEmpty then .pending (some time)
      else machine.tell caller false
  | .identity => machine.tell caller ⟨caller.number, caller.parent, caller.group⟩
  | .read number limit byLine => machine.read caller number limit byLine
  | .write number data => machine.write caller number data
  | .seek number offset origin => machine.seek caller number offset origin
  | .openFile path how mode => machine.openPath caller path how mode
  | .awaitPeer number => machine.awaitPeer caller number
  | .close number => machine.close caller number
  | .duplicate number least closeOnExecute =>
      machine.duplicate caller number least closeOnExecute
  | .replace source target => machine.replace caller source target
  | .pipe => machine.makePipe caller
  | .status path follow => machine.tell caller (machine.status caller path follow)
  | .descriptorStatus number =>
      machine.tell caller <|
        match machine.openedBy? caller number with
        | none => .error .badDescriptor
        | some (_, opened) => .ok (machine.statusOfChannel opened.channel)
  | .permitted path access => machine.tell caller (machine.permitted caller path access)
  | .changeDirectory path =>
      match machine.nodeAt caller path true with
      | .error errno => .done (.error errno) machine caller
      | .ok index =>
          if (machine.files.content index).isDirectory then
            .done (.ok ()) machine { caller with directory := index }
          else
            .done (.error .notDirectory) machine caller
  | .currentDirectory => machine.tell caller (machine.files.pathOf caller.directory)
  | .entries path =>
      machine.tell caller <|
        match machine.nodeAt caller path true with
        | .error errno => .error errno
        | .ok index => machine.files.entriesOf index
  | .makeDirectory path mode =>
      machine.change caller
        (machine.makeAt caller path (mode &&& (0o777 ^^^ (caller.mask &&& 0o777)))
          (.directory []))
  | .removeDirectory path => machine.change caller (machine.removeDirectory caller path)
  | .remove path => machine.change caller (machine.remove caller path)
  | .rename source target => machine.change caller (machine.rename caller source target)
  | .link source target => machine.change caller (machine.link caller source target)
  | .makeLink target path =>
      machine.change caller (machine.makeAt caller path 0o777 fun _ => .link target)
  | .readLink path => machine.tell caller (machine.readLink caller path)
  | .makeFifo path mode =>
      machine.change caller
        (machine.makeAt caller path (mode &&& (0o777 ^^^ (caller.mask &&& 0o777)))
          fun _ => .fifo none)
  | .changeMode path mode =>
      machine.change caller <|
        match machine.nodeAt caller path true with
        | .error errno => .error errno
        | .ok index =>
            .ok { machine with
                  files := machine.files.modify index fun node => { node with mode := mode } }
  | .changeTime path modified =>
      machine.change caller <|
        match machine.nodeAt caller path true with
        | .error errno => .error errno
        | .ok index =>
            .ok { machine with
                  files := machine.files.modify index fun node =>
                    { node with modified := modified } }
  | .fileMask mask => .done caller.mask machine { caller with mask := mask.getD caller.mask }
  | .limit resource => machine.tell caller (caller.limit resource)
  | .setLimit resource limit =>
      .done (.ok ()) machine
        { caller with
          limits := (resource, limit) :: caller.limits.filter fun known => known.1 ≠ resource }
  | .leadGroup => .done () machine { caller with group := caller.number }
  | .kill target signal => machine.kill caller target signal
  | .disposition signal => machine.tell caller (caller.disposition signal)
  | .setDisposition signal disposition =>
      .done () machine (caller.setDisposition signal disposition)
  | .wait child deadline isInterruptible =>
      machine.wait caller child deadline isInterruptible
  | .execute path => machine.execute caller path

/-- Whether nobody waits for a process when it ends: what has lost its parent is the child of
process 1. -/
def isOrphan (entry : Entry) : Bool :=
  entry.parent = 1

/-- The machine after the end of a process: its open files are released, its children are left
alone, and its parent is told. -/
def finish (machine : Machine) (entry : Entry) (ending : Ending) : Machine :=
  let released :=
    entry.descriptors.foldl (fun machine known => machine.release known.2.file) machine
  let others :=
    released.entries.filter fun other => !(other.isOver && other.parent = entry.number)
  let left :=
    others.map fun other =>
      let adopted := if other.parent = entry.number then { other with parent := 1 } else other
      if adopted.number = entry.parent then adopted.receive Signal.childChanged else adopted
  let ended := { entry with activity := .over ending, descriptors := [], isStopped := false }
  { released with
    entries := if isOrphan entry then left else left ++ [ended]
    hasNews := true }

/-- Puts a process back after a request, or ends it if a signal does. -/
def putBack (machine : Machine) (entry : Entry) : Machine :=
  match entry.fatal with
  | some signal => machine.finish entry (.killed signal)
  | none => { machine with entries := entry :: machine.entries }

/-- Lets blocked processes try again if there are news. -/
def spread (machine : Machine) : Machine :=
  if machine.hasNews then
    { machine with
      entries := machine.entries.map fun entry => entry.wake machine.clock
      hasNews := false }
  else
    machine

/-- The process that is to go on, and when: the one whose time comes first. -/
def due? (machine : Machine) : Option (Nat × Entry) :=
  machine.entries.foldl
    (fun best entry =>
      match entry.wakeTime?, best with
      | none, _ => best
      | some time, none => some (time, entry)
      | some time, some (bestTime, bestEntry) =>
          if time < bestTime then some (time, entry) else some (bestTime, bestEntry))
    none

/-- Starts a child of a process. -/
def fork (machine : Machine) (entry : Entry) (child : Unit → Process) (next : Nat → Process) :
    Machine :=
  let number := machine.nextProcess
  let held := entry.descriptors.foldl (fun machine known => machine.hold known.2.file) machine
  let started : Entry :=
    { entry with
      number := number
      parent := entry.number
      activity := .ready (child ())
      time := machine.clock + forkCost + forkCost / 2
      caught := [] }
  { held with
    entries :=
      { entry with activity := .ready (next number), time := machine.clock + forkCost } ::
        started :: held.entries
    nextProcess := number + 1 }

/-- The machine after the next step of a process. -/
def advance (machine : Machine) (time : Nat) (entry : Entry) : Machine :=
  let now := max machine.clock time
  let others := machine.entries.filter fun other => other.number ≠ entry.number
  let here := { machine with clock := now, entries := others }
  match entry.fatal, entry.activity with
  | some signal, _ => (here.finish entry (.killed signal)).spread
  | none, .over _ => machine
  | none, .ready process | none, .blocked process _ =>
      match process with
      | .exit status => (here.finish entry (.exited status)).spread
      | .fork child next => here.fork entry child next
      | .ask request next =>
          match here.answer { entry with time := now + requestCost } request with
          | .done value changed caller =>
              (changed.putBack { caller with activity := .ready (next value) }).spread
          | .pending deadline =>
              here.putBack
                { entry with activity := .blocked (.ask request next) deadline, time := now }

/-- The ending of a process, if it has ended. -/
def ending? (machine : Machine) (number : Nat) : Option Ending :=
  match machine.entries.find? fun entry => entry.number = number with
  | none => none
  | some entry =>
      match entry.activity with
      | .over ending => some ending
      | _ => none

end Machine

end Host

end Cadence
