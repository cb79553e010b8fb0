import Cadence.Loop.Executor
import Cadence.System

namespace Cadence

namespace Shell

open Host

/-!
# Running shell commands

A command is run by a shell of its own on a freshly installed machine, in a
directory that must exist.  A shell that is told to terminate before it has begun
ends by that signal.
-/

/-- The exit status when there is no shell: the directory of the command does not exist, or the
command is too long to be given to it. -/
def notStarted : ShellEnd := .exited 127

/-- The end of a shell that is told to terminate. -/
def terminated : ShellEnd := .killed Signal.terminate

/-- The bytes of a text, up to the first byte 0. -/
def bytesOf (text : String) : List Char :=
  (text.toUTF8.toList.map fun byte => Char.ofNat byte.toNat).takeWhile (· ≠ Char.ofNat 0)

/-- The directory in which a command is run; no path stands for the usual one. -/
def startDirectory? (directory : String) : Option Nat :=
  let path := if directory.isEmpty then startingDirectory else bytesOf directory
  match installedFiles.locate 0 path true with
  | .ok ⟨_, _, .node index⟩ =>
      if (installedFiles.content index).isDirectory then some index else none
  | _ => none

/-- The steps a machine may take.  A command that ends does so long before that. -/
def patience : Nat := Nat.pow 10 18

/-- How a process of the machine ended, as its parent learns it. -/
def endOf : Ending → ShellEnd
  | .exited status => .exited (status % 256 : Nat)
  | .killed signal => .killed signal

/-- How a shell in a directory ends.  A shell that does not end is told to terminate. -/
def endIn (shell : Process) (directory : Nat) : ShellEnd :=
  ((Machine.boot directory shell).run patience).elim terminated endOf

/-- How the shell of a command ends that is run in a directory. -/
def ending (command directory : String) (cancelled : Bool) : ShellEnd :=
  match startDirectory? directory, System.shell? (bytesOf command) with
  | some place, some shell => if cancelled then terminated else endIn shell place
  | _, _ => notStarted

/-- Every command is run by a shell on a machine of its own. -/
def executor : Executor :=
  ⟨fun _ _ command directory => ending command directory false⟩

end Shell

end Cadence
