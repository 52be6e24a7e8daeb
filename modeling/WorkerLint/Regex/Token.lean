import WorkerLint.Regex
import WorkerLint.Regex.Property

namespace WorkerLint.Regex

structure Cursor where
  rest : Text
  number : Nat
  deriving DecidableEq, Repr

namespace Cursor

def atEnd (cursor : Cursor) : Bool :=
  cursor.rest.isEmpty

def head? (cursor : Cursor) : Option Char :=
  cursor.rest.head?

def bump (cursor : Cursor) : Cursor :=
  match cursor.rest with
  | [] => cursor
  | _ :: rest => ⟨rest, cursor.number + 1⟩

def skipFrom : (comment : Bool) → Text → Nat → Cursor
  | _, [], number => ⟨[], number⟩
  | true, c :: rest, number => skipFrom (c ≠ '\n') rest (number + 1)
  | false, c :: rest, number =>
    if isBlank c then skipFrom false rest (number + 1)
    else if c = '#' then skipFrom true rest (number + 1)
    else ⟨c :: rest, number⟩

def skip (verbose : Bool) (cursor : Cursor) : Cursor :=
  if verbose then skipFrom false cursor.rest cursor.number else cursor

def step (verbose : Bool) (cursor : Cursor) : Cursor :=
  cursor.bump.skip verbose

def peek (verbose : Bool) (cursor : Cursor) : Option Char :=
  let after := cursor.rest.drop 1
  if !verbose then after.head?
  else
    match after.dropWhile isBlank with
    | '#' :: comment => (comment.dropWhile isBlank).head?
    | [] => after.head?
    | c :: _ => some c

def collectFrom (verbose : Bool) (wanted : Char → Bool) : Nat → Cursor → Text × Cursor
  | 0, cursor => ([], cursor)
  | fuel + 1, cursor =>
    match cursor.rest with
    | [] => ([], cursor)
    | c :: _ =>
      if wanted c then
        let (more, left) := collectFrom verbose wanted fuel (cursor.step verbose)
        (c :: more, left)
      else ([], cursor)

def collect (verbose : Bool) (wanted : Char → Bool) (cursor : Cursor) : Text × Cursor :=
  collectFrom verbose wanted cursor.rest.length cursor

end Cursor

inductive ClassLetter
  | digit
  | blank
  | word
  deriving DecidableEq, Repr

inductive Primitive
  | literal (c : Char) (asByte : Bool)
  | letter (kind : ClassLetter) (negated : Bool)
  | property (query : Query) (negated : Bool)
  | dot
  | lineStart
  | lineEnd
  | textStart
  | textEnd
  | edge (edge : Edge)
  deriving DecidableEq, Repr

structure Token where
  primitive : Primitive
  span : Span
  deriving DecidableEq, Repr

namespace Token

def isHex (c : Char) : Bool :=
  c.isDigit || ('a' ≤ c && c ≤ 'f') || ('A' ≤ c && c ≤ 'F')

def hexDigit (c : Char) : Nat :=
  if c.isDigit then c.toNat - 48 else c.toLower.toNat - 87

def hexValue (digits : Text) : Nat :=
  digits.foldl (fun value c => value * 16 + hexDigit c) 0

def scalar? (code : Nat) : Option Char :=
  if code.isValidChar then some (Char.ofNat code) else none

def isMeta (c : Char) : Bool :=
  c ∈ "\\.+*?()|[]\x7b\x7d^$#&-~".toList

def isPlainEscape (c : Char) : Bool :=
  isMeta c || (c.toNat < 0x80 && !c.isAlphanum && c ≠ '<' && c ≠ '>')

def literal (start : Nat) (c : Char) (asByte : Bool) (left : Cursor) :
    Except Fault (Token × Cursor) :=
  .ok (⟨.literal c asByte, ⟨start, left.number⟩⟩, left)

def hexBraced (verbose : Bool) (start : Nat) (brace : Cursor) : Except Fault (Token × Cursor) :=
  let (digits, left) := (brace.step verbose).collect verbose isHex
  match left.head? with
  | none => .error (.over .escapeUnfinished brace.number left.number)
  | some c =>
    if c ≠ '\x7d' then .error (.over .hexDigit left.number (left.number + 1))
    else
      let after := left.step verbose
      if digits = [] then .error (.over .hexEmpty brace.number after.number)
      else
        match scalar? (hexValue digits) with
        | none => .error (.over .hexNoCharacter (brace.number + 1) left.number)
        | some c => literal start c false after

def hexDigits (verbose : Bool) : Nat → Cursor → Except Fault (Text × Cursor)
  | 0, cursor => .ok ([], cursor)
  | count + 1, cursor =>
    match cursor.head? with
    | none => .error (.over .escapeUnfinished cursor.number cursor.number)
    | some c =>
      if !isHex c then .error (.over .hexDigit cursor.number (cursor.number + 1))
      else
        match hexDigits verbose count (cursor.step verbose) with
        | .error fault => .error fault
        | .ok (more, left) => .ok (c :: more, left)

def hexEscape (verbose : Bool) (start count : Nat) (letter : Cursor) :
    Except Fault (Token × Cursor) :=
  let cursor := letter.step verbose
  if cursor.head? = some '\x7b' then hexBraced verbose start cursor
  else
    match hexDigits verbose count cursor with
    | .error fault => .error fault
    | .ok (digits, left) =>
      match scalar? (hexValue digits) with
      | none => .error (.over .hexNoCharacter cursor.number left.number)
      | some c => literal start c (count = 2) left

def cut? (sep : Text) : Text → Option (Text × Text)
  | [] => none
  | c :: rest =>
    match Text.after? sep (c :: rest) with
    | some after => some ([], after)
    | none => (cut? sep rest).map fun (before, after) => (c :: before, after)

def query (name : Text) : Query × Bool :=
  match cut? "!=".toList name, cut? [':'] name, cut? ['='] name with
  | some (name, value), _, _ => (.value name value, true)
  | none, some (name, value), _ => (.value name value, false)
  | none, none, some (name, value) => (.value name value, false)
  | none, none, none => (.property name, false)

def propertyEscape (verbose : Bool) (start : Nat) (negated : Bool) (letter : Cursor) :
    Except Fault (Token × Cursor) :=
  let cursor := letter.step verbose
  match cursor.head? with
  | none => .error (.over .escapeUnfinished cursor.number cursor.number)
  | some c =>
    if c = '\x7b' then
      let (name, left) := (cursor.step verbose).collect verbose (· ≠ '\x7d')
      if left.atEnd then .error (.over .escapeUnfinished left.number left.number)
      else
        let (query, unequal) := query name
        .ok (⟨.property query (negated != unequal), ⟨start, left.bump.number⟩⟩, left.bump)
    else if c = '\\' then .error (.over .propertyEscape cursor.number (cursor.number + 1))
    else
      let left := cursor.step verbose
      .ok (⟨.property (.property [c]) negated, ⟨start, left.number⟩⟩, left)

def edge? (name : Text) : Option Edge :=
  if name = "start".toList then some .start
  else if name = "end".toList then some .finish
  else if name = "start-half".toList then some .startHalf
  else if name = "end-half".toList then some .finishHalf
  else none

/-- A word boundary, which may be followed by its kind in braces. Braces that hold no letter belong
to a repetition. -/
def boundary (verbose : Bool) (start : Nat) (after : Cursor) : Except Fault (Token × Cursor) :=
  let plain := .ok (⟨.edge .boundary, ⟨start, after.number⟩⟩, after)
  if after.head? ≠ some '\x7b' then plain
  else
    let inner := after.step verbose
    match inner.head? with
    | none => .error (.over .edgeUnfinished start inner.number)
    | some c =>
      let isKindChar := fun c : Char => c.isAlpha || c == '-'
      if !isKindChar c then plain
      else
        let (name, left) := inner.collect verbose isKindChar
        if left.head? ≠ some '\x7d' then .error (.over .edgeUnclosed after.number left.number)
        else
          match edge? name with
          | none => .error (.over .edgeUnknown inner.number left.number)
          | some edge => .ok (⟨.edge edge, ⟨start, left.bump.number⟩⟩, left.bump)

def letterEscape? : Char → Option Primitive
  | 'a' => some (.literal '\x07' false)
  | 'f' => some (.literal '\x0c' false)
  | 't' => some (.literal '\t' false)
  | 'n' => some (.literal '\n' false)
  | 'r' => some (.literal '\r' false)
  | 'v' => some (.literal '\x0b' false)
  | 'd' => some (.letter .digit false)
  | 'D' => some (.letter .digit true)
  | 's' => some (.letter .blank false)
  | 'S' => some (.letter .blank true)
  | 'w' => some (.letter .word false)
  | 'W' => some (.letter .word true)
  | 'A' => some .textStart
  | 'z' => some .textEnd
  | 'B' => some (.edge .inside)
  | '<' => some (.edge .start)
  | '>' => some (.edge .finish)
  | _ => none

def escape (verbose : Bool) (cursor : Cursor) : Except Fault (Token × Cursor) :=
  let start := cursor.number
  let letter := cursor.bump
  match letter.head? with
  | none => .error (.over .escapeUnfinished start letter.number)
  | some c =>
    let after := letter.bump
    if c.isDigit then .error (.over .backreference start after.number)
    else if c = 'x' then hexEscape verbose start 2 letter
    else if c = 'u' then hexEscape verbose start 4 letter
    else if c = 'U' then hexEscape verbose start 8 letter
    else if c = 'p' then propertyEscape verbose start false letter
    else if c = 'P' then propertyEscape verbose start true letter
    else if c = 'b' then boundary verbose start after
    else if isPlainEscape c then literal start c false after
    else
      match letterEscape? c with
      | some primitive => .ok (⟨primitive, ⟨start, after.number⟩⟩, after)
      | none => .error (.over .escapeUnknown start after.number)

def inClass (verbose : Bool) (cursor : Cursor) : Except Fault (Token × Cursor) :=
  match cursor.head? with
  | some '\\' => escape verbose cursor
  | some c => literal cursor.number c false cursor.bump
  | none => .error (.over .classUnclosed cursor.number cursor.number)

def inPattern (verbose : Bool) (cursor : Cursor) : Except Fault (Token × Cursor) :=
  let single := fun primitive =>
    .ok (⟨primitive, ⟨cursor.number, cursor.number + 1⟩⟩, cursor.bump)
  match cursor.head? with
  | some '\\' => escape verbose cursor
  | some '.' => single .dot
  | some '^' => single .lineStart
  | some '$' => single .lineEnd
  | some c => single (.literal c false)
  | none => .error (.over .escapeUnfinished cursor.number cursor.number)

end Token

end WorkerLint.Regex
