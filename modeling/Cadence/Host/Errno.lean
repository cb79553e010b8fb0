namespace Cadence

namespace Host

/-!
# Refusals of the host

Why the host refuses a request, with the words in which programs report it.
-/

/-- Why a request is refused. -/
inductive Errno
  | notPermitted
  | noEntry
  | noProcess
  | interrupted
  | noDevice
  | tooManyArguments
  | execFormat
  | badDescriptor
  | noChild
  | again
  | accessDenied
  | busy
  | alreadyExists
  | notDirectory
  | isDirectory
  | invalid
  | tooManyFiles
  | noSpace
  | illegalSeek
  | readOnly
  | brokenPipe
  | nameTooLong
  | notEmpty
  | tooManyLinks
  deriving DecidableEq, Repr

namespace Errno

/-- The words for a refusal. -/
def message : Errno → String
  | notPermitted => "Operation not permitted"
  | noEntry => "No such file or directory"
  | noProcess => "No such process"
  | interrupted => "Interrupted system call"
  | noDevice => "No such device or address"
  | tooManyArguments => "Argument list too long"
  | execFormat => "Exec format error"
  | badDescriptor => "Bad file descriptor"
  | noChild => "No child processes"
  | again => "Resource temporarily unavailable"
  | accessDenied => "Permission denied"
  | busy => "Device or resource busy"
  | alreadyExists => "File exists"
  | notDirectory => "Not a directory"
  | isDirectory => "Is a directory"
  | invalid => "Invalid argument"
  | tooManyFiles => "Too many open files"
  | noSpace => "No space left on device"
  | illegalSeek => "Illegal seek"
  | readOnly => "Read-only file system"
  | brokenPipe => "Broken pipe"
  | nameTooLong => "File name too long"
  | notEmpty => "Directory not empty"
  | tooManyLinks => "Too many levels of symbolic links"

/-- The words for a refusal, as a text. -/
def text (errno : Errno) : List Char :=
  errno.message.toList

end Errno

end Host

end Cadence
