import Cadence.Host.Image
import Cadence.Sum

namespace Cadence

namespace Host

/-!
# Starting programs

What a program is given when a process becomes it.
-/

/-- The start of a program: where it is found, its arguments after its own name, and its
surroundings. -/
structure Invocation where
  path : List Char
  arguments : List (List Char)
  surroundings : Surroundings

namespace Invocation

/-- The longest argument, with its end. -/
def longestArgument : Nat := 131072

/-- The most bytes that arguments and surroundings may take, each with its end and its address. -/
def mostBytes : Nat := 2097152

/-- Whether a program cannot be given so much. -/
def isTooLong (invocation : Invocation) : Bool :=
  let sizes := invocation.arguments.map (·.length + 1) ++
    invocation.surroundings.map fun entry => entry.1.length + entry.2.length + 2
  sizes.any (longestArgument < ·) || mostBytes < sumOf sizes + 8 * sizes.length

end Invocation

/-- How a process becomes a program; it goes on only if that is refused. -/
abbrev Launch := Invocation → Job Errno

end Host

end Cadence
