import WorkerLint.Print.Quoting
import WorkerLint.Print.Real

/-! Formatted output. A format is written again for as long as arguments are left. -/

namespace WorkerLint.Print

inductive Measure
  | fixed (size : Nat)
  | argument
  deriving DecidableEq, Repr

structure Directive where
  spelling : Text
  flags : List Char
  width : Measure
  precision : Option Measure
  letter : Option Char
  deriving DecidableEq, Repr

def PrintfKind.flagChars : PrintfKind → List Char
  | .builtin => "#-+ 0".toList
  | .program => "I'-+ #0".toList

def PrintfKind.sizeChars : PrintfKind → List Char
  | .builtin => []
  | .program => "lLhjtz".toList

def measure : Text → Measure × Text
  | '*' :: rest => (.argument, rest)
  | text =>
    let digits := text.takeWhile Char.isDigit
    (.fixed (Text.digitsValue digits), text.drop digits.length)

def PrintfKind.directive (kind : PrintfKind) (text : Text) : Directive × Text :=
  let flags := text.takeWhile kind.flagChars.elem
  let (width, after) := measure (text.drop flags.length)
  let (precision, after) :=
    match after with
    | '.' :: rest =>
      let (precision, after) := measure rest
      (some precision, after)
    | _ => (none, after)
  let after := after.dropWhile kind.sizeChars.elem
  let spelling := '%' :: text.take (text.length - after.tail.length)
  (⟨spelling, flags, width, precision, after.head?⟩, after.tail)

def integerLetters : List Char :=
  "diouxX".toList

def realLetters : List Char :=
  "aAeEfFgG".toList

def refusedBy (flag : Char) : List Char :=
  if flag = 'I' ∨ flag = '\'' then "aAceEosxX".toList
  else if flag = '#' then "cdisu".toList
  else if flag = '0' then "cs".toList
  else []

def Directive.isBare (directive : Directive) : Bool :=
  directive.spelling.length = 2

/-- The conversion can be made. The program takes some letters without flags and sizes only, and
refuses flags that mean nothing. -/
def PrintfKind.accepts (kind : PrintfKind) (directive : Directive) (letter : Char) : Bool :=
  match kind with
  | .builtin => letter ∈ 'b' :: 'c' :: 's' :: integerLetters ++ realLetters
  | .program =>
    if letter = 'b' ∨ letter = 'q' then directive.isBare
    else
      letter ∈ 'c' :: 's' :: integerLetters ++ realLetters &&
        !(directive.flags.any fun flag => (refusedBy flag).elem letter) &&
        !(letter = 'c' && directive.precision.isSome)

inductive Written
  | text (text : Text)
  | note (text : Text)
  deriving DecidableEq, Repr

structure Printing where
  args : List Text
  written : List Written
  status : Nat
  finished : Bool
  deriving DecidableEq, Repr

namespace Printing

def write (printing : Printing) (text : Text) : Printing :=
  { printing with written := .text text :: printing.written }

def note (printing : Printing) (text : Text) : Printing :=
  { printing with written := .note text :: printing.written }

def complain (printing : Printing) (text : Text) : Printing :=
  { printing.note text with status := 1 }

def next (printing : Printing) : Text × Printing :=
  (printing.args.headD [], { printing with args := printing.args.tail })

end Printing

def PrintfKind.faultStatus : PrintfKind → Nat
  | .builtin => 2
  | .program => 1

def PrintfKind.finish : PrintfKind → Printing → Printing
  | .builtin, printing => { printing with finished := true }
  | .program, printing => { printing with finished := true, status := 0 }

def PrintfKind.fail (kind : PrintfKind) (printing : Printing) (note : Text) : Printing :=
  { printing.note note with status := kind.faultStatus, finished := true }

def PrintfKind.shown : PrintfKind → Text → Text
  | .builtin, text => text
  | .program, text => singleQuoted text

def rangeFault : Text :=
  ": Numerical result out of range".toList

/-- What is wrong with a number. Of two faults the shell names the end, and the program the size. -/
def PrintfKind.numberFault? (kind : PrintfKind) (extent : Extent) (outOfRange : Bool) :
    Option Text :=
  match kind, extent, outOfRange with
  | .builtin, .nothing, _ => some ": expected numeric value".toList
  | .builtin, .start, _ => some ": not completely converted".toList
  | .program, .nothing, _ => some ": expected a numeric value".toList
  | .program, .start, false => some ": value not completely converted".toList
  | _, _, true => some rangeFault
  | _, .whole, false => none

def ignoredNote (rest : Text) : Text :=
  "warning: ".toList ++ rest ++
    ": character(s) following character constant have been ignored".toList

def PrintfKind.number (kind : PrintfKind) (asSigned : Bool) (printing : Printing) :
    Int × Printing :=
  let (arg, printing) := printing.next
  let plain : Int × Printing :=
    let reading := readInteger asSigned arg
    match kind.numberFault? reading.extent reading.tooLarge with
    | some fault => (reading.value, printing.complain (kind.shown arg ++ fault))
    | none => (reading.value, printing)
  match kind, arg with
  | .builtin, q :: rest =>
    if q = '\'' ∨ q = '"' then (((rest.head?.map Char.toNat).getD 0 : Nat), printing) else plain
  | .program, q :: c :: more =>
    if q = '\'' ∨ q = '"' then
      if more = [] then ((c.toNat : Nat), printing)
      else
        ((c.toNat : Nat), printing.note (ignoredNote more))
    else plain
  | _, _ => plain

def PrintfKind.precisionOfReals : PrintfKind → Precision
  | .builtin => .double
  | .program => .extended

def PrintfKind.real (kind : PrintfKind) (printing : Printing) : Real × Printing :=
  let ofByte (c : Char) : Real := ⟨false, .finite c.toNat 0⟩
  let (arg, printing) := printing.next
  let plain : Real × Printing :=
    let reading := kind.precisionOfReals.read arg
    match kind.numberFault? reading.extent reading.outOfRange with
    | some fault => (reading.value, printing.complain (kind.shown arg ++ fault))
    | none => (reading.value, printing)
  match kind, arg with
  | .builtin, q :: rest =>
    if q = '\'' ∨ q = '"' then (ofByte (rest.headD '\x00'), printing) else plain
  | .program, q :: c :: more =>
    if q = '\'' ∨ q = '"' then
      (ofByte c, if more = [] then printing else printing.note (ignoredNote more))
    else plain
  | _, _ => plain

structure Layout where
  left : Bool
  flags : List Char
  width : Nat
  precision : Option Nat
  deriving DecidableEq, Repr

namespace Layout

def pad (layout : Layout) (text : Text) : Text :=
  let gap := List.replicate (layout.width - text.length) ' '
  if layout.left then text ++ gap else gap ++ text

def cut (layout : Layout) (text : Text) : Text :=
  match layout.precision with
  | some size => text.take size
  | none => text

def number (layout : Layout) (lead digits : Text) : Text :=
  let filled :=
    match layout.precision with
    | some size => List.replicate (size - digits.length) '0' ++ digits
    | none =>
      if layout.flags.elem '0' && !layout.left then
        List.replicate (layout.width - lead.length - digits.length) '0' ++ digits
      else digits
  layout.pad (lead ++ filled)

def digits (layout : Layout) (base value : Nat) : Text :=
  if value = 0 ∧ layout.precision = some 0 then [] else Nat.toDigits base value

def sign (layout : Layout) (isNegative : Bool) : Text :=
  if isNegative then ['-']
  else if layout.flags.elem '+' then ['+']
  else if layout.flags.elem ' ' then [' ']
  else []

def zeroLed (layout : Layout) (digits : Text) : Text :=
  match layout.precision with
  | some size => if digits.length < size ∨ digits.head? = some '0' then digits else '0' :: digits
  | none => if digits.head? = some '0' then digits else '0' :: digits

def integer (layout : Layout) (letter : Char) (value : Int) : Text :=
  let marked := layout.flags.elem '#'
  let size := value.natAbs
  match letter with
  | 'o' =>
    let digits := layout.digits 8 size
    layout.number [] (if marked then layout.zeroLed digits else digits)
  | 'x' => layout.number (if marked && size != 0 then "0x".toList else []) (layout.digits 16 size)
  | 'X' =>
    layout.number (if marked && size != 0 then "0X".toList else [])
      ((layout.digits 16 size).map Char.toUpper)
  | 'u' => layout.number [] (layout.digits 10 size)
  | _ => layout.number (layout.sign (value < 0)) (layout.digits 10 size)

def realForm (precision : Precision) (layout : Layout) (letter : Char) (mantissa : Nat)
    (exponent : Int) : Text :=
  let marked := layout.flags.elem '#'
  let places := layout.precision.getD 6
  match letter.toLower with
  | 'a' => hexForm precision marked layout.precision mantissa exponent
  | 'e' => powerForm marked places mantissa exponent
  | 'g' => shortForm marked places mantissa exponent
  | _ => fixedForm marked places mantissa exponent

def real (precision : Precision) (layout : Layout) (letter : Char) (value : Real) : Text :=
  let cased (text : Text) : Text := if letter.isUpper then text.map Char.toUpper else text
  let sign := layout.sign value.isNegative
  match value.size with
  | .infinite => layout.pad (sign ++ cased "inf".toList)
  | .undefined => layout.pad (sign ++ cased "nan".toList)
  | .finite mantissa exponent =>
    let lead := if letter.toLower = 'a' then sign ++ cased "0x".toList else sign
    { layout with precision := none }.number lead
      (cased (layout.realForm precision letter mantissa exponent))

end Layout

def maxMeasure : Nat := 2147483647

/-- A width or a precision that is an argument. The shell keeps its lower half, and the program
refuses what is too large. -/
def PrintfKind.measure (kind : PrintfKind) (refusal : String) (printing : Printing) :
    Except Printing (Int × Printing) :=
  let (size, read) := kind.number true printing
  match kind with
  | .builtin => .ok (Int.bmod size 4294967296, read)
  | .program =>
    if maxMeasure < size then
      .error (kind.fail read (refusal.toList ++ singleQuoted printing.next.1))
    else .ok (size, read)

def PrintfKind.width (kind : PrintfKind) (directive : Directive) (printing : Printing) :
    Except Printing (Nat × Bool × Printing) := do
  let left := directive.flags.elem '-'
  match directive.width with
  | .fixed size => .ok (size, left, printing)
  | .argument =>
    let (size, read) ← kind.measure "invalid field width: " printing
    .ok (size.natAbs, left || size < 0, read)

def PrintfKind.precision (kind : PrintfKind) (directive : Directive) (printing : Printing) :
    Except Printing (Option Nat × Printing) := do
  match directive.precision with
  | none => .ok (none, printing)
  | some (.fixed size) => .ok (some size, printing)
  | some .argument =>
    let (size, read) ← kind.measure "invalid precision: " printing
    .ok (if size < 0 then none else some size.natAbs, read)

def PrintfKind.convert (kind : PrintfKind) (layout : Layout) (letter : Char)
    (printing : Printing) : Printing :=
  if letter = 'd' ∨ letter = 'i' then
    let (value, printing) := kind.number true printing
    printing.write (layout.integer letter value)
  else if letter ∈ integerLetters then
    let (value, printing) := kind.number false printing
    printing.write (layout.integer letter value)
  else if letter ∈ realLetters then
    let (value, printing) := kind.real printing
    printing.write (layout.real kind.precisionOfReals letter value)
  else
    let present := !printing.args.isEmpty
    let (arg, printing) := printing.next
    if letter = 's' then printing.write (layout.pad (layout.cut arg))
    else if letter = 'c' then printing.write (layout.pad [arg.headD '\x00'])
    else if letter = 'q' then printing.write (if present then shellWord arg else [])
    else
      let read := kind.unescape arg
      let shown :=
        match kind with
        | .builtin => layout.pad (layout.cut read.text)
        | .program => read.text
      let printing := printing.write shown
      match read.fault with
      | some fault => kind.fail printing fault
      | none => if read.finished then kind.finish printing else printing

def PrintfKind.directiveFault (kind : PrintfKind) (directive : Directive) : Text :=
  match kind, directive.letter with
  | .builtin, none => "missing format character".toList
  | .builtin, some _ => directive.spelling ++ ": invalid directive".toList
  | .program, _ => directive.spelling ++ ": invalid conversion specification".toList

/-- Carries out a directive. Widths given as arguments are read before it is looked at. -/
def PrintfKind.perform (kind : PrintfKind) (directive : Directive) (printing : Printing) :
    Printing :=
  match kind.width directive printing with
  | .error failed => failed
  | .ok (width, left, printing) =>
    match kind.precision directive printing with
    | .error failed => failed
    | .ok (precision, printing) =>
      match directive.letter with
      | none => kind.fail printing (kind.directiveFault directive)
      | some letter =>
        if kind.accepts directive letter then
          kind.convert ⟨left, directive.flags, width, precision⟩ letter printing
        else kind.fail printing (kind.directiveFault directive)

def PrintfKind.fill (kind : PrintfKind) : Nat → Text → Printing → Printing
  | 0, _, printing => printing
  | _, [], printing => printing
  | fuel + 1, c :: rest, printing =>
    if printing.finished then printing
    else if c = '\\' then
      match kind.escape rest with
      | .put chars after => kind.fill fuel after (printing.write chars)
      | .finish => kind.finish printing
      | .faulty message => kind.fail printing message
    else if c ≠ '%' then kind.fill fuel rest (printing.write [c])
    else if rest.head? = some '%' then kind.fill fuel rest.tail (printing.write ['%'])
    else
      let (directive, after) := kind.directive rest
      kind.fill fuel after (kind.perform directive printing)

/-- Writes a format again while it takes arguments and some are left. The program warns of those
that it does not take. -/
def PrintfKind.fillAll (kind : PrintfKind) (format : Text) : Nat → Printing → Printing
  | 0, printing => printing
  | fuel + 1, printing =>
    let filled := kind.fill (format.length + 1) format printing
    if filled.finished then filled
    else if filled.args.length < printing.args.length ∧ filled.args ≠ [] then
      kind.fillAll format fuel filled
    else
      match kind, filled.args with
      | .program, arg :: _ =>
        filled.note
          ("warning: ignoring excess arguments, starting with ".toList ++ singleQuoted arg)
      | _, _ => filled

def PrintfKind.print (kind : PrintfKind) (format : Text) (args : List Text) :
    List Written × Nat :=
  let printing := kind.fillAll format (args.length + 1) ⟨args, [], 0, false⟩
  (printing.written.reverse, printing.status)

end WorkerLint.Print
