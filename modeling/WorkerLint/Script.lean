import WorkerLint.Path

namespace WorkerLint

structure Script where
  path : Path
  lines : List Text
  deriving DecidableEq, Repr

namespace Script

def scopeOpener : Text :=
  "(function () \x7b".toList

def scopeCloser : Text :=
  "\x7d());\n".toList

def strictPragmas : List Text :=
  ["'use strict'".toList, "\"use strict\"".toList]

def isStrict (lines : List Text) : Bool :=
  lines.any fun line => strictPragmas.any fun pragma => Text.contains pragma line

def endLine (line : Text) : Text :=
  if line.getLast? = some '\n' then line else line ++ ['\n']

/-- The last line gets a terminator if it lacks one, so that scripts never share a line. -/
def endLastLine : List Text → List Text
  | [] => []
  | [line] => [endLine line]
  | line :: rest => line :: endLastLine rest

/-- A strict script becomes the body of a function, so that its pragma stays its own. The opener
shares the first line, so that no line number inside the script moves. -/
def scopeStrict (lines : List Text) : List Text :=
  if isStrict lines then
    match lines with
    | [] => [scopeCloser]
    | first :: rest => (scopeOpener ++ first) :: rest ++ [scopeCloser]
  else lines

def prepare (lines : List Text) : List Text :=
  scopeStrict (endLastLine lines)

def prepared (script : Script) : List Text :=
  prepare script.lines

end Script

end WorkerLint
