import Cadence.Host.Files

namespace Cadence

namespace Host

/-!
# Pipes, open files and descriptors

A descriptor is the number by which a process knows an open file.  Descriptors of
several processes may stand for one open file, and several open files may lead to
one channel: a file of the tree, a device, or an end of a pipe.
-/

/-- The bytes on their way through a pipe.  What has been written last stands last in `later`,
which holds the pieces in reverse. -/
structure Pipe where
  sooner : List Char := []
  later : List (List Char) := []
  size : Nat := 0
  /-- How often its ends have been opened. -/
  readersOpened : Nat := 0
  writersOpened : Nat := 0

namespace Pipe

/-- How many bytes a pipe holds. -/
def capacity : Nat := 65536

/-- Up to so many bytes are written in one piece. -/
def atomic : Nat := 4096

/-- The pipe with more bytes in it. -/
def add (pipe : Pipe) (data : List Char) (count : Nat) : Pipe :=
  { pipe with later := data :: pipe.later, size := pipe.size + count }

/-- The pipe with its bytes in one piece. -/
def settle (pipe : Pipe) : Pipe :=
  if pipe.later.isEmpty then
    pipe
  else
    { pipe with sooner := pipe.sooner ++ pipe.later.reverse.flatten, later := [] }

end Pipe

/-- The first bytes of a text, up to the end of the line, and the others. -/
def takeLine : Nat → List Char → List Char × List Char
  | 0, rest => ([], rest)
  | _ + 1, [] => ([], [])
  | limit + 1, c :: rest =>
      if c = '\n' then
        ([c], rest)
      else
        let (line, others) := takeLine limit rest
        (c :: line, others)

/-- The first bytes of a text and the others. -/
def takeSome (limit : Nat) (byLine : Bool) (data : List Char) : List Char × List Char :=
  if byLine then takeLine limit data else data.splitAt limit

/-- Where an open file leads. -/
inductive Channel
  | file (index : Nat)
  | device (device : Device) (index : Nat)
  | reader (pipe : Nat)
  | writer (pipe : Nat)
  deriving DecidableEq, Repr

/-- A file as it has been opened. -/
structure OpenFile where
  channel : Channel
  reading : Bool
  writing : Bool
  append : Bool := false
  position : Nat := 0
  /-- How many descriptors stand for it. -/
  holders : Nat := 1
  /-- How often the other end of a named pipe had been opened before this one. -/
  peersBefore : Nat := 0

/-- What a descriptor of a process stands for. -/
structure Descriptor where
  file : Nat
  closeOnExecute : Bool := false
  deriving DecidableEq, Repr

end Host

end Cadence
