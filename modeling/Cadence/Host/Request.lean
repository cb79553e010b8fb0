import Cadence.Host.Errno
import Cadence.Host.Signal

namespace Cadence

namespace Host

/-!
# Requests and processes

A process computes on its own and asks the host for everything else.  It is
described by what it asks next and how it goes on with the answer; the host
answers the requests of all processes one at a time.

Texts, paths and the contents of files are lists of bytes, and a byte is a
character below U+0100.
-/

/-- What a file is. -/
inductive FileKind
  | regular
  | directory
  | link
  | characterDevice
  | blockDevice
  | fifo
  | socket
  deriving DecidableEq, Repr

/-- What the host tells about a file. -/
structure FileStatus where
  kind : FileKind
  mode : Nat
  size : Nat
  /-- Two paths with one serial number lead to one file. -/
  serial : Nat
  /-- The time of the last change of the contents, in nanoseconds. -/
  modified : Nat
  owner : Nat := 0
  group : Nat := 0
  deriving DecidableEq, Repr

/-- How a file is to be opened. -/
structure OpenMode where
  reading : Bool := false
  writing : Bool := false
  create : Bool := false
  truncate : Bool := false
  exclusive : Bool := false
  append : Bool := false
  deriving DecidableEq, Repr

namespace OpenMode

def forReading : OpenMode := { reading := true }

def forWriting : OpenMode := { writing := true, create := true, truncate := true }

def forNewFile : OpenMode := { writing := true, create := true, exclusive := true }

def forAppending : OpenMode := { writing := true, create := true, append := true }

def forBoth : OpenMode := { reading := true, writing := true, create := true }

end OpenMode

/-- From where a position in a file is counted. -/
inductive Origin
  | start
  | current
  | stop
  deriving DecidableEq, Repr

/-- What a process is allowed only so much of. -/
inductive Resource
  | processorTime
  | fileSize
  | dataSize
  | stackSize
  | coreSize
  | residentSize
  | lockedMemory
  | processes
  | openFiles
  | addressSpace
  | fileLocks
  | realTimePriority
  deriving DecidableEq, Repr

/-- An allowance; none is unlimited.  The first bound holds, and may be raised to the second. -/
structure Limit where
  soft : Option Nat
  hard : Option Nat
  deriving DecidableEq, Repr

/-- How a process ended. -/
inductive Ending
  | exited (status : Nat)
  | killed (signal : Signal)
  deriving DecidableEq, Repr

namespace Ending

/-- The exit status that stands for an ending. -/
def status : Ending → Nat
  | exited status => status % 256
  | killed signal => 128 + signal

end Ending

/-- What a process learns when it waits for its children. -/
inductive WaitOutcome
  | ended (child : Nat) (ending : Ending)
  | noChildren
  | interrupted
  | timedOut
  deriving DecidableEq, Repr

/-- What is found behind the path of a program. -/
inductive Executable
  | program (name : String)
  | script (text : List Char)
  deriving DecidableEq, Repr

/-- The numbers of a process. -/
structure Identity where
  process : Nat
  parent : Nat
  group : Nat
  deriving DecidableEq, Repr

/-- What a process may ask of the host. -/
inductive Request
  /-- The caught signals that have come since this was last asked. -/
  | signals
  /-- The time in nanoseconds since 1970. -/
  | clock
  /-- Sleeps until a time; the answer is false if a caught signal came before it. -/
  | sleepUntil (time : Nat)
  | identity
  /-- Reads at most so many bytes; on request only to the end of the line. -/
  | read (descriptor limit : Nat) (byLine : Bool)
  /-- Writes bytes; the answer says how many. -/
  | write (descriptor : Nat) (data : List Char)
  | seek (descriptor : Nat) (offset : Int) (origin : Origin)
  | openFile (path : List Char) (how : OpenMode) (mode : Nat)
  /-- Waits until the other end of an opened named pipe is opened. -/
  | awaitPeer (descriptor : Nat)
  | close (descriptor : Nat)
  /-- A second descriptor, not below a number, for what a descriptor stands for. -/
  | duplicate (descriptor least : Nat) (closeOnExecute : Bool)
  /-- Makes a second descriptor stand for what the first stands for. -/
  | replace (source target : Nat)
  /-- The reading and the writing end of a new pipe. -/
  | pipe
  | status (path : List Char) (follow : Bool)
  | descriptorStatus (descriptor : Nat)
  /-- Whether the process may read (4), write (2) or execute (1) a file. -/
  | permitted (path : List Char) (access : Nat)
  | changeDirectory (path : List Char)
  | currentDirectory
  | entries (path : List Char)
  | makeDirectory (path : List Char) (mode : Nat)
  | removeDirectory (path : List Char)
  | remove (path : List Char)
  | rename (source target : List Char)
  | link (source target : List Char)
  | makeLink (target path : List Char)
  | readLink (path : List Char)
  | makeFifo (path : List Char) (mode : Nat)
  | changeMode (path : List Char) (mode : Nat)
  | changeTime (path : List Char) (modified : Nat)
  /-- The mask of the modes of new files, and a new one if given. -/
  | fileMask (mask : Option Nat)
  | limit (resource : Resource)
  | setLimit (resource : Resource) (limit : Limit)
  /-- Makes the process the leader of a group of its own. -/
  | leadGroup
  | kill (target : Int) (signal : Signal)
  | disposition (signal : Signal)
  | setDisposition (signal : Signal) (disposition : Disposition)
  /-- Waits for a child, or for any, until a time; on request only until a caught signal comes. -/
  | wait (child : Option Nat) (deadline : Option Nat) (isInterruptible : Bool)
  /-- Becomes the program at a path. -/
  | execute (path : List Char)

/-- The answer to a request. -/
abbrev Answer : Request → Type
  | .signals => List Signal
  | .clock => Nat
  | .sleepUntil _ => Bool
  | .identity => Identity
  | .read .. => Except Errno (List Char)
  | .write .. => Except Errno Nat
  | .seek .. => Except Errno Nat
  | .openFile .. => Except Errno Nat
  | .awaitPeer _ => Except Errno Nat
  | .close _ => Except Errno Unit
  | .duplicate .. => Except Errno Nat
  | .replace .. => Except Errno Unit
  | .pipe => Except Errno (Nat × Nat)
  | .status .. => Except Errno FileStatus
  | .descriptorStatus _ => Except Errno FileStatus
  | .permitted .. => Except Errno Unit
  | .changeDirectory _ => Except Errno Unit
  | .currentDirectory => Except Errno (List Char)
  | .entries _ => Except Errno (List (List Char))
  | .makeDirectory .. => Except Errno Unit
  | .removeDirectory _ => Except Errno Unit
  | .remove _ => Except Errno Unit
  | .rename .. => Except Errno Unit
  | .link .. => Except Errno Unit
  | .makeLink .. => Except Errno Unit
  | .readLink _ => Except Errno (List Char)
  | .makeFifo .. => Except Errno Unit
  | .changeMode .. => Except Errno Unit
  | .changeTime .. => Except Errno Unit
  | .fileMask _ => Nat
  | .limit _ => Limit
  | .setLimit .. => Except Errno Unit
  | .leadGroup => Unit
  | .kill .. => Except Errno Unit
  | .disposition _ => Disposition
  | .setDisposition .. => Unit
  | .wait .. => WaitOutcome
  | .execute _ => Except Errno Executable

/-- A process, by what it does next. -/
inductive Process
  | exit (status : Nat)
  | ask (request : Request) (next : Answer request → Process)
  /-- Starts a child, and goes on with its number. -/
  | fork (child : Unit → Process) (next : Nat → Process)

/-- A part of a process that ends with a value: what follows is a process for each value. -/
def Job (α : Type) : Type := (α → Process) → Process

namespace Job

@[always_inline, inline]
protected def pure {α : Type} (value : α) : Job α := fun next => next value

@[always_inline, inline]
protected def bind {α β : Type} (job : Job α) (rest : α → Job β) : Job β :=
  fun next => job fun value => rest value next

instance : Monad Job where
  pure := Job.pure
  bind := Job.bind

/-- Asks the host. -/
@[inline]
def ask (request : Request) : Job (Answer request) :=
  fun next => .ask request next

/-- Ends the process. -/
def exit {α : Type} (status : Nat) : Job α :=
  fun _ => .exit status

/-- Starts a child. -/
def fork (child : Job Nat) : Job Nat :=
  fun next => .fork (fun _ => child .exit) next

end Job

end Host

end Cadence
