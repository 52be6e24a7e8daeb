import WorkerLint.Text
import WorkerLint.Text.Digit

namespace WorkerLint

structure Diagnostic where
  file : Text
  line : Nat
  message : Text
  deriving DecidableEq, Repr

namespace Diagnostic

def lineMark : Text :=
  ": line ".toList

/-- The digits and the message of a line mark at the start of the text: the mark, decimal digits
of any script, and a comma. -/
def markAt? (text : Text) : Option (Text × Text) :=
  match Text.after? lineMark text with
  | none => none
  | some rest =>
    let digits := rest.takeWhile isDigit
    match rest.dropWhile isDigit with
    | ',' :: message => if digits = [] then none else some (digits, message)
    | _ => none

def splitMark? : Text → Option (Text × Text × Text)
  | [] => none
  | c :: rest =>
    match markAt? (c :: rest) with
    | some (digits, message) => some ([], digits, message)
    | none =>
      match splitMark? rest with
      | some (file, digits, message) => some (c :: file, digits, message)
      | none => none

def isLineEnd (c : Char) : Bool :=
  c = '\r' || c = '\n'

/-- Reads a line of engine output. Banners, summaries and blank lines are no diagnostics, nor is
a line whose first mark has a number that cannot be read. -/
def parse? (raw : Text) : Option Diagnostic :=
  let text := Text.dropEndWhile isLineEnd raw
  if '\n' ∈ text then none
  else
    match splitMark? text with
    | none => none
    | some (file, digits, message) =>
      (Text.toWord? digits).map fun line => ⟨file, line, message⟩

def parseAll (raw : List Text) : List Diagnostic :=
  raw.filterMap parse?

def render (diagnostic : Diagnostic) : Text :=
  diagnostic.file ++ lineMark ++ Text.ofNat diagnostic.line ++ ',' :: diagnostic.message

end Diagnostic

end WorkerLint
