import WorkerLint.Text

namespace WorkerLint.Print

def escapeChar? (c : Char) : Option Char :=
  match c with
  | 'a' => some '\x07'
  | 'b' => some '\x08'
  | 'e' => some '\x1b'
  | 'f' => some '\x0c'
  | 'n' => some '\n'
  | 'r' => some '\r'
  | 't' => some '\t'
  | 'v' => some '\x0b'
  | '\\' => some '\\'
  | _ => none

def isOctal (c : Char) : Bool :=
  '0' ≤ c && c ≤ '7'

def isHex (c : Char) : Bool :=
  c.isDigit || ('a' ≤ c && c ≤ 'f') || ('A' ≤ c && c ≤ 'F')

def digitValue (c : Char) : Nat :=
  if c.isDigit then c.toNat - '0'.toNat else c.toLower.toNat - 'a'.toNat + 10

def valueIn (base : Nat) (digits : Text) : Nat :=
  digits.foldl (fun value c => base * value + digitValue c) 0

def octalByte (text : Text) : Char × Text :=
  let run := (text.take 3).takeWhile isOctal
  (Char.ofNat (valueIn 8 run % 256), text.drop run.length)

inductive Escape
  | put (chars after : Text)
  | finish
  | faulty (message : Text)
  deriving DecidableEq, Repr

inductive PrintfKind
  | builtin
  | program
  deriving DecidableEq, Repr

/-- The shell reads letters and octal digits; before anything else a backslash is itself. -/
def builtinEscape (text : Text) : Escape :=
  match text with
  | [] => .put ['\\'] []
  | c :: rest =>
    if isOctal c then
      let (byte, after) := octalByte text
      .put [byte] after
    else
      match escapeChar? c with
      | some escaped => .put [escaped] rest
      | none => .put ['\\'] text

/-- A character by a fixed number of hexadecimal digits. Only ASCII can be written, and what is
beyond stays an escape. -/
def codeEscape (mark : Char) (length : Nat) (rest : Text) : Escape :=
  let digits := rest.take length
  let value := valueIn 16 digits
  let shown := List.replicate (length - (Nat.toDigits 16 value).length) '0' ++ Nat.toDigits 16 value
  if digits.length < length ∨ ¬digits.all isHex then
    .faulty "missing hexadecimal number in escape".toList
  else if 0xD800 ≤ value ∧ value ≤ 0xDFFF then
    .faulty ("invalid universal character name \\".toList ++ mark :: shown)
  else if value < 0x80 then .put [Char.ofNat value] (rest.drop length)
  else .put ('\\' :: mark :: shown.map Char.toUpper) (rest.drop length)

def programEscape (text : Text) : Escape :=
  match text with
  | [] => .put ['\\'] []
  | c :: rest =>
    if c = 'x' then
      let digits := (rest.take 2).takeWhile isHex
      if digits = [] then .faulty "missing hexadecimal number in escape".toList
      else .put [Char.ofNat (valueIn 16 digits)] (rest.drop digits.length)
    else if isOctal c then
      let (byte, after) := octalByte text
      .put [byte] after
    else if c = '"' then .put [c] rest
    else if c = 'c' then .finish
    else if c = 'u' then codeEscape c 4 rest
    else if c = 'U' then codeEscape c 8 rest
    else
      match escapeChar? c with
      | some escaped => .put [escaped] rest
      | none => .put ['\\', c] rest

def PrintfKind.escape : PrintfKind → Text → Escape
  | .builtin => builtinEscape
  | .program => programEscape

/-- In an argument octal digits may have a zero before them, and output can end. -/
def PrintfKind.argumentEscape (kind : PrintfKind) (text : Text) : Escape :=
  match text with
  | 'c' :: _ => .finish
  | '0' :: c :: rest => kind.escape (if isOctal c then c :: rest else text)
  | _ => kind.escape text

structure Unescaped where
  text : Text
  finished : Bool
  fault : Option Text
  deriving DecidableEq, Repr

def PrintfKind.unescapeFrom (kind : PrintfKind) : Nat → Text → Unescaped
  | 0, _ => ⟨[], false, none⟩
  | _, [] => ⟨[], false, none⟩
  | fuel + 1, c :: rest =>
    let put (chars after : Text) : Unescaped :=
      let more := kind.unescapeFrom fuel after
      { more with text := chars ++ more.text }
    if c = '\\' then
      match kind.argumentEscape rest with
      | .put chars after => put chars after
      | .finish => ⟨[], true, none⟩
      | .faulty message => ⟨[], true, some message⟩
    else put [c] rest

def PrintfKind.unescape (kind : PrintfKind) (text : Text) : Unescaped :=
  kind.unescapeFrom (text.length + 1) text

end WorkerLint.Print
