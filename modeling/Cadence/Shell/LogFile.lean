import Cadence.Cli.RunTasks
import Cadence.Shell.Run

namespace Cadence

namespace Shell

/-!
# Log files

Where the lines of a log file end up on a freshly installed machine: a path may also
name one of the standard streams, or a place where no file can be opened.
-/

/-- Whether a file can be opened for appending. -/
def canAppend (directory : Nat) (path : List Char) : Bool :=
  let opening : Host.Process :=
    .ask (.openFile path Host.OpenMode.forAppending 0o666) fun answer =>
      .exit (match answer with
        | .ok _ => 0
        | .error _ => 1)
  (Host.Machine.boot directory opening).run patience = some (.exited 0)

/-- Where the lines of a log file end up that is given by its path. -/
def logTarget (file : String) : Cli.LogTarget :=
  let path := bytesOf file
  match startDirectory? "" with
  | none => .nowhere
  | some directory =>
      match Host.installedFiles.locate directory path true with
      | .ok ⟨_, _, .descriptor 1⟩ => .standardOutput
      | .ok ⟨_, _, .descriptor 2⟩ => .standardError
      | _ => if canAppend directory path then .file else .nowhere

end Shell

end Cadence
