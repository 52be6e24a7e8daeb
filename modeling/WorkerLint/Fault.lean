import WorkerLint.Path
import WorkerLint.Text.Quoted

namespace WorkerLint

inductive Cause
  | noEntry
  | notPermitted
  | notDirectory
  | isDirectory
  | nameTooLong
  | linkLoop
  | invalidText
  | nulInPath
  | nulInWord
  | noCommand
  | unstaged (scratch : Path)
  | unlisted
  | withheld
  deriving DecidableEq, Repr

def Cause.message : Cause → Text
  | .noEntry => "No such file or directory (os error 2)".toList
  | .notPermitted => "Permission denied (os error 13)".toList
  | .notDirectory => "Not a directory (os error 20)".toList
  | .isDirectory => "Is a directory (os error 21)".toList
  | .nameTooLong => "File name too long (os error 36)".toList
  | .linkLoop => "Too many levels of symbolic links (os error 40)".toList
  | .invalidText => "stream did not contain valid UTF-8".toList
  | .nulInPath => "file name contained an unexpected NUL byte".toList
  | .nulInWord => "nul byte found in provided data".toList
  | .noCommand => "empty or unbalanced command line".toList
  | .unstaged scratch =>
    "No such file or directory (os error 2) at path ".toList ++ Text.quoted scratch.spelling
  | .unlisted => "entity not found".toList
  | .withheld => "permission denied".toList

inductive Fault
  | malformed (line : Text)
  | missing (name : Text) (root : Path)
  | unreadable (path : Path) (cause : Cause)
  | engine (command : Text) (cause : Cause)
  deriving DecidableEq, Repr

namespace Fault

def message : Fault → Text
  | .malformed line => "malformed importScripts directive: ".toList ++ line
  | .missing name root =>
    "could not locate ".toList ++ name ++ " under ".toList ++ root.spelling
  | .unreadable path _ => "reading ".toList ++ path.spelling
  | .engine command _ => "running lint engine `".toList ++ command ++ "`".toList

def chain : Fault → List Text
  | .unreadable path cause => [(Fault.unreadable path cause).message, cause.message]
  | .engine command cause => [(Fault.engine command cause).message, cause.message]
  | fault => [fault.message]

end Fault

end WorkerLint
