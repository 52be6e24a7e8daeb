import WorkerLint.Machine.Program
import WorkerLint.Print.Format

namespace WorkerLint.Tool

open Program

def ending (status : Nat) : Program := fun _ =>
  pure (.exited status)

def writeParts (launch : Launch) : List Print.Written → Option Denial →
    StateM Machine (Option Denial)
  | [], denial => pure denial
  | .text text :: rest, denial => do
    match ← write launch.process 1 text with
    | .ok _ => writeParts launch rest denial
    | .error new => writeParts launch rest (denial <|> if text = [] then none else some new)
  | .note text :: rest, denial => do
    note launch.process (launch.name ++ ": ".toList ++ text ++ ['\n'])
    writeParts launch rest denial

def finish (launch : Launch) (parts : List Print.Written) (status : Nat) :
    StateM Machine Ending := do
  match ← writeParts launch parts none with
  | none => pure (.exited status)
  | some denial =>
    note launch.process
      (launch.name ++ ": write error: ".toList ++ denial.reason ++ ['\n'])
    pure (.exited 1)

def printf : Program := fun launch => do
  match if launch.args.head? = some ['-', '-'] then launch.args.tail else launch.args with
  | [] =>
    note launch.process
      (launch.name ++ ": missing operand\nTry '".toList ++ launch.name ++
        " --help' for more information.\n".toList)
    pure (.exited 1)
  | format :: rest =>
    let (parts, status) := Print.PrintfKind.program.print format rest
    finish launch parts status

end WorkerLint.Tool
