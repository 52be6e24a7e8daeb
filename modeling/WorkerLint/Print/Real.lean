import WorkerLint.Print.Integer

/-! Real numbers as commands read and print them: rounded to a binary format, and printed from the
exact value. -/

namespace WorkerLint.Print

structure Precision where
  bits : Nat
  least : Int
  most : Int
  leading : Nat
  deriving DecidableEq, Repr

namespace Precision

def double : Precision := ⟨53, -1074, 971, 1⟩

def extended : Precision := ⟨64, -16445, 16320, 4⟩

end Precision

inductive Size
  | finite (mantissa : Nat) (exponent : Int)
  | infinite
  | undefined
  deriving DecidableEq, Repr

structure Real where
  isNegative : Bool
  size : Size
  deriving DecidableEq, Repr

def roundHalfEven (dividend divisor : Nat) : Nat :=
  let quotient := dividend / divisor
  let twice := 2 * (dividend % divisor)
  if twice < divisor then quotient
  else if divisor < twice then quotient + 1
  else quotient + quotient % 2

def ratio (dividend divisor : Nat) (twos tens : Int) : Nat × Nat :=
  (dividend * Nat.pow 2 twos.toNat * Nat.pow 10 tens.toNat,
    divisor * Nat.pow 2 (-twos).toNat * Nat.pow 10 (-tens).toNat)

def Precision.nearest (precision : Precision) (dividend divisor : Nat) : Size × Bool :=
  if dividend = 0 then (.finite 0 precision.least, false)
  else
    let guess : Int := (dividend.log2 : Int) - divisor.log2 - precision.bits
    let exponent := max guess precision.least
    let rounded (exponent : Int) : Nat :=
      let (a, b) := ratio dividend divisor (-exponent) 0
      roundHalfEven a b
    let full := Nat.pow 2 precision.bits
    let exponent := if full ≤ rounded exponent then exponent + 1 else exponent
    let exponent := if full ≤ rounded exponent then exponent + 1 else exponent
    let mantissa := rounded exponent
    let (a, b) := ratio dividend divisor (-exponent) 0
    if precision.most < exponent then (.infinite, true)
    else (.finite mantissa exponent, 2 * mantissa < full && mantissa * b != a)

structure RealReading where
  value : Real
  extent : Extent
  outOfRange : Bool
  deriving DecidableEq, Repr

def exponent? (text : Text) : Option (Int × Text) :=
  let (negative, body) := signed text
  let digits := body.takeWhile Char.isDigit
  if digits = [] then none
  else
    let size : Int := Text.digitsValue digits
    some (if negative then -size else size, body.drop digits.length)

def pointed (isDigit : Char → Bool) (text : Text) : Text × Nat × Text :=
  let whole := text.takeWhile isDigit
  match text.drop whole.length with
  | '.' :: rest =>
    let fraction := rest.takeWhile isDigit
    (whole ++ fraction, fraction.length, rest.drop fraction.length)
  | rest => (whole, 0, rest)

/-- Powers of ten beyond this are out of every range. -/
def farExponent : Int := 6000

def decimal (precision : Precision) (text : Text) : Option (Size × Bool × Text) :=
  let (digits, places, rest) := pointed Char.isDigit text
  if digits = [] then none
  else
    let (power, rest) : Int × Text :=
      match rest with
      | c :: after =>
        if c = 'e' ∨ c = 'E' then (exponent? after).getD (0, rest) else (0, rest)
      | [] => (0, [])
    let value := Text.digitsValue digits
    let scale := power - places
    let position := scale + (Nat.toDigits 10 value).length
    if value = 0 then some (.finite 0 precision.least, false, rest)
    else if farExponent < position then some (.infinite, true, rest)
    else if position < -farExponent then some (.finite 0 precision.least, true, rest)
    else
      let (a, b) := ratio value 1 0 scale
      let (size, far) := precision.nearest a b
      some (size, far, rest)

def hexadecimal (precision : Precision) (text : Text) : Option (Size × Bool × Text) :=
  let (digits, places, rest) := pointed isHex text
  if digits = [] then none
  else
    let (power, rest) : Int × Text :=
      match rest with
      | c :: after =>
        if c = 'p' ∨ c = 'P' then (exponent? after).getD (0, rest) else (0, rest)
      | [] => (0, [])
    let value := valueIn 16 digits
    let scale := power - 4 * places
    if value = 0 then some (.finite 0 precision.least, false, rest)
    else if 100000 < scale then some (.infinite, true, rest)
    else if scale < -100000 then some (.finite 0 precision.least, true, rest)
    else
      let (a, b) := ratio value 1 scale 0
      let (size, far) := precision.nearest a b
      some (size, far, rest)

def afterWord? (word : String) (text : Text) : Option Text :=
  if (text.take word.length).map Char.toLower = word.toList then some (text.drop word.length)
  else none

def wordSize? (text : Text) : Option (Size × Text) :=
  match afterWord? "infinity" text, afterWord? "inf" text, afterWord? "nan" text with
  | some rest, _, _ => some (.infinite, rest)
  | _, some rest, _ => some (.infinite, rest)
  | _, _, some rest =>
    match rest with
    | '(' :: inner =>
      let name := inner.takeWhile fun c => c.isAlphanum || c = '_'
      match inner.drop name.length with
      | ')' :: after => some (.undefined, after)
      | _ => some (.undefined, rest)
    | _ => some (.undefined, rest)
  | _, _, _ => none

def sizeFrom (precision : Precision) (text : Text) : Option (Size × Bool × Text) :=
  match wordSize? text with
  | some (size, rest) => some (size, false, rest)
  | none =>
    match text with
    | '0' :: x :: rest =>
      if x = 'x' ∨ x = 'X' then
        match hexadecimal precision rest with
        | some found => some found
        | none => decimal precision text
      else decimal precision text
    | _ => decimal precision text

def Precision.read (precision : Precision) (text : Text) : RealReading :=
  let (negative, body) := signed (text.dropWhile isSpace)
  match sizeFrom precision body with
  | none => ⟨⟨false, .finite 0 precision.least⟩, if text = [] then .whole else .nothing, false⟩
  | some (size, far, rest) => ⟨⟨negative, size⟩, if rest = [] then .whole else .start, far⟩

def withPoint (marked : Bool) (places : Nat) (digits : Text) : Text :=
  let padded := List.replicate (places + 1 - digits.length) '0' ++ digits
  let whole := padded.take (padded.length - places)
  let fraction := padded.drop (padded.length - places)
  whole ++ (if fraction = [] ∧ ¬marked then [] else '.' :: fraction)

def scaled (mantissa : Nat) (exponent tens : Int) : Nat :=
  let (a, b) := ratio mantissa 1 exponent tens
  roundHalfEven a b

def leadingPower (mantissa : Nat) (exponent : Int) : Int :=
  let shift : Int := if exponent < 0 then -exponent else 0
  let (a, b) := ratio mantissa 1 exponent shift
  ((Nat.toDigits 10 (a / b)).length : Int) - 1 - shift

def scientific (places : Nat) (mantissa : Nat) (exponent : Int) : Text × Int :=
  if mantissa = 0 then (List.replicate (places + 1) '0', 0)
  else
    let power := leadingPower mantissa exponent
    let digits := Nat.toDigits 10 (scaled mantissa exponent (places - power))
    if digits.length = places + 2 then (digits.dropLast, power + 1) else (digits, power)

def powerText (power : Int) : Text :=
  let digits := Text.ofNat power.natAbs
  (if power < 0 then '-' else '+') :: (List.replicate (2 - digits.length) '0' ++ digits)

def fixedForm (marked : Bool) (places : Nat) (mantissa : Nat) (exponent : Int) : Text :=
  withPoint marked places (Text.ofNat (scaled mantissa exponent places))

def powerForm (marked : Bool) (places : Nat) (mantissa : Nat) (exponent : Int) : Text :=
  let (digits, power) := scientific places mantissa exponent
  withPoint marked places digits ++ 'e' :: powerText power

def dropZeros (text : Text) : Text :=
  if text.elem '.' then
    Text.dropEndWhile (· = '.') (Text.dropEndWhile (· = '0') text)
  else text

def shortForm (marked : Bool) (count : Nat) (mantissa : Nat) (exponent : Int) : Text :=
  let count := max count 1
  let (digits, power) := scientific (count - 1) mantissa exponent
  if -4 ≤ power ∧ power < count then
    let places := ((count : Int) - 1 - power).toNat
    let text := fixedForm marked places mantissa exponent
    if marked then text else dropZeros text
  else
    let text := withPoint marked (count - 1) digits
    (if marked then text else dropZeros text) ++ 'e' :: powerText power

def hexForm (precision : Precision) (marked : Bool) (places : Option Nat) (mantissa : Nat)
    (exponent : Int) : Text :=
  let total := (precision.bits - precision.leading) / 4
  let missing := if mantissa = 0 then 0 else precision.bits - 1 - mantissa.log2
  -- Numbers below the normal ones are not shifted to the front.
  let shift := min missing (exponent - precision.least).toNat
  let full := mantissa * Nat.pow 2 shift
  let power : Int := if mantissa = 0 then 0 else exponent - shift + 4 * total
  let places' := places.getD total
  let rounded :=
    if places' < total then roundHalfEven full (Nat.pow 16 (total - places'))
    else full * Nat.pow 16 (places' - total)
  let first := rounded / Nat.pow 16 places'
  let (first, power) := if first = 16 then (1, power + 4) else (first, power)
  let fraction := Nat.toDigits 16 (rounded % Nat.pow 16 places')
  let fraction :=
    if places' = 0 then [] else List.replicate (places' - fraction.length) '0' ++ fraction
  let fraction := if places.isNone then Text.dropEndWhile (· = '0') fraction else fraction
  let sign := if power < 0 then '-' else '+'
  Nat.toDigits 16 first ++ (if fraction = [] ∧ ¬marked then [] else '.' :: fraction) ++
    'p' :: sign :: Text.ofNat power.natAbs

end WorkerLint.Print
