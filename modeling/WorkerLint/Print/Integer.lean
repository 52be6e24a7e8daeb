import WorkerLint.Print.Escape

namespace WorkerLint.Print

inductive Extent
  | whole
  | start
  | nothing
  deriving DecidableEq, Repr

structure IntegerReading where
  value : Int
  extent : Extent
  tooLarge : Bool
  deriving DecidableEq, Repr

def isSpace (c : Char) : Bool :=
  c = ' ' || ('\t' ≤ c && c ≤ '\r')

def signed : Text → Bool × Text
  | '-' :: rest => (true, rest)
  | '+' :: rest => (false, rest)
  | text => (false, text)

def isBinary (c : Char) : Bool :=
  c = '0' || c = '1'

def baseOf (text : Text) : Nat × (Char → Bool) × Text :=
  match text with
  | '0' :: x :: d :: rest =>
    if (x = 'x' ∨ x = 'X') ∧ isHex d then (16, isHex, d :: rest)
    else if (x = 'b' ∨ x = 'B') ∧ isBinary d then (2, isBinary, d :: rest)
    else (8, isOctal, text)
  | '0' :: _ => (8, isOctal, text)
  | _ => (10, Char.isDigit, text)

def magnitude (text : Text) : Nat × Bool × Text :=
  let (base, isDigit, body) := baseOf text
  let digits := body.takeWhile isDigit
  (valueIn base digits, !digits.isEmpty, body.drop digits.length)

def wordSize : Int := 18446744073709551616

def clampSigned (value : Int) : Int :=
  max (-(wordSize / 2)) (min (wordSize / 2 - 1) value)

def clampUnsigned (value : Int) : Int :=
  if wordSize ≤ value.natAbs then wordSize - 1 else value % wordSize

/-- Reads a number in decimal, octal after a zero, hexadecimal after `0x`, or binary after `0b`. -/
def readInteger (asSigned : Bool) (text : Text) : IntegerReading :=
  let (negative, body) := signed (text.dropWhile isSpace)
  let (size, found, rest) := magnitude body
  if !found then ⟨0, if text = [] then .whole else .nothing, false⟩
  else
    let value : Int := if negative then -size else size
    let kept := if asSigned then clampSigned value else clampUnsigned value
    let tooLarge := if asSigned then kept ≠ value else wordSize ≤ value.natAbs
    ⟨kept, if rest = [] then .whole else .start, tooLarge⟩

end WorkerLint.Print
