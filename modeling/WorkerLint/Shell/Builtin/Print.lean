import WorkerLint.Print.Format
import WorkerLint.Shell.Builtin.Arguments

namespace WorkerLint.Shell.Builtin

open Print

def echo : Builtin := fun args => do
  let (bare, words) :=
    match args with
    | ['-', 'n'] :: rest => (true, rest)
    | _ => (false, args)
  let shown := PrintfKind.builtin.unescape (Text.join [' '] words)
  Act.print (if bare || shown.finished then shown.text else shown.text ++ ['\n'])
  pure 0

def writeAll : List Written → Act Unit
  | [] => pure ()
  | .text text :: rest => do
    Act.print text
    writeAll rest
  | .note text :: rest => do
    Act.warn text
    writeAll rest

def printf : Builtin := fun args => do
  let given ← options "" "" args
  match given.rest with
  | [] => Act.fail "usage: printf format [arg ...]".toList
  | format :: rest =>
    let (written, status) := PrintfKind.builtin.print format rest
    writeAll written
    pure status

end WorkerLint.Shell.Builtin
