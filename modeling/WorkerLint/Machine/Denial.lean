import WorkerLint.Fault

namespace WorkerLint

inductive Denial
  | noEntry
  | notPermitted
  | notDirectory
  | isDirectory
  | nameTooLong
  | linkLoop
  | badDescriptor
  | noSpace
  | noDevice
  | present
  | brokenPipe
  deriving DecidableEq, Repr

namespace Denial

def reason : Denial → Text
  | .noEntry => "No such file or directory".toList
  | .notPermitted => "Permission denied".toList
  | .notDirectory => "Not a directory".toList
  | .isDirectory => "Is a directory".toList
  | .nameTooLong => "File name too long".toList
  | .linkLoop => "Too many levels of symbolic links".toList
  | .badDescriptor => "Bad file descriptor".toList
  | .noSpace => "No space left on device".toList
  | .noDevice => "No such device or address".toList
  | .present => "File exists".toList
  | .brokenPipe => "Broken pipe".toList

def ofCause : Cause → Denial
  | .notPermitted => .notPermitted
  | .notDirectory => .notDirectory
  | .isDirectory => .isDirectory
  | .nameTooLong => .nameTooLong
  | .linkLoop => .linkLoop
  | _ => .noEntry

end Denial

end WorkerLint
