import WorkerLint.Print.Integer
import WorkerLint.Shell.State

namespace WorkerLint.Shell.Test

open Print

def unaryOps : List Text :=
  ["-r", "-w", "-x", "-e", "-f", "-d", "-c", "-b", "-p", "-u", "-g", "-k", "-s", "-t", "-z", "-n",
    "-h", "-L", "-S", "-O", "-G"].map String.toList

def binaryOps : List Text :=
  ["=", "!=", "<", ">", "-eq", "-ne", "-ge", "-gt", "-le", "-lt", "-nt", "-ot",
    "-ef"].map String.toList

def joiners : List Text :=
  ["!", "-a", "-o", "(", ")"].map String.toList

inductive Kind
  | finish
  | operand
  | unary
  | binary
  | joiner
  deriving DecidableEq, Repr

/-- A unary operator is an operand if nothing follows it, or a binary operator with an operand. -/
def isOperand : List Text → Bool
  | _ :: next :: _ :: _ => binaryOps.contains next
  | _ :: [_] => false
  | _ => true

def kind (words : List Text) : Kind :=
  match words with
  | [] => .finish
  | word :: rest =>
    if unaryOps.contains word then if isOperand words then .operand else .unary
    else if binaryOps.contains word then .binary
    else if word = ['('] ∧ rest = [] then .operand
    else if joiners.contains word then .joiner
    else .operand

def isJoiner (text : String) (words : List Text) : Bool :=
  kind words = .joiner && words.head? == some text.toList

def number (text : Text) : Except Text Int :=
  let body := Text.strip isSpace text
  let (negative, digits) := signed body
  let size : Int := Text.digitsValue digits
  let value := if negative then -size else size
  if digits ≠ [] ∧ digits.all Char.isDigit ∧ clampSigned value = value then .ok value
  else .error ("Illegal number: ".toList ++ text)

def isLink (state : State) (path : Path) : Bool :=
  match state.disk.lookup .entry path with
  | .ok (.link _) => true
  | _ => false

def isFilled (state : State) : Target → Bool
  | .file place => !(state.machine.contentAt place).isEmpty
  | .dir _ => true
  | .special (.program _) => true
  | _ => false

/-- The test of one operand. Everything can be read and written, and directories and programs can
be entered or started. Nothing is a terminal. -/
def unary (state : State) (op arg : Text) : Except Text Bool :=
  let path := Machine.pathOf arg
  let holds (test : Target → Bool) : Except Text Bool :=
    .ok ((state.machine.targetOf? state.process path).any test)
  match String.ofList op with
  | "-z" => .ok arg.isEmpty
  | "-n" => .ok !arg.isEmpty
  | "-t" => do
    discard (number arg)
    .ok false
  | "-h" => .ok (isLink state path)
  | "-L" => .ok (isLink state path)
  | "-d" => holds fun | .dir _ => true | _ => false
  | "-f" => holds fun | .file _ => true | .special (.program _) => true | _ => false
  | "-x" => holds fun | .dir _ => true | .special (.program _) => true | _ => false
  | "-c" => holds fun | .special (.program _) => false | .special _ => true | _ => false
  | "-p" => holds fun | .pipe _ => true | _ => false
  | "-s" => holds (isFilled state)
  | "-b" => .ok false
  | "-u" => .ok false
  | "-g" => .ok false
  | "-k" => .ok false
  | "-S" => .ok false
  | _ => holds fun _ => true

def compare (a b : Text) (test : Int → Int → Bool) : Except Text Bool := do
  let x ← number a
  let y ← number b
  .ok (test x y)

def isFresh (state : State) : Target → Bool
  | .file place => state.machine.written.contains place
  | _ => false

def isNewer (state : State) (a b : Text) : Bool :=
  let target (name : Text) := state.machine.targetOf? state.process (Machine.pathOf name)
  match target a, target b with
  | some x, some y => isFresh state x && !isFresh state y
  | _, _ => false

def binary (state : State) (op a b : Text) : Except Text Bool :=
  match String.ofList op with
  | "=" => .ok (a == b)
  | "!=" => .ok (a != b)
  | "<" => .ok (decide (a < b))
  | ">" => .ok (decide (b < a))
  | "-eq" => compare a b (· == ·)
  | "-ne" => compare a b (· != ·)
  | "-lt" => compare a b fun x y => x < y
  | "-le" => compare a b fun x y => x ≤ y
  | "-gt" => compare a b fun x y => y < x
  | "-ge" => compare a b fun x y => y ≤ x
  | "-nt" => .ok (isNewer state a b)
  | "-ot" => .ok (isNewer state b a)
  | "-ef" =>
    match state.machine.targetOf? state.process (Machine.pathOf a) with
    | some x => .ok (state.machine.targetOf? state.process (Machine.pathOf b) == some x)
    | none => .ok false
  | _ => .ok false

def expected (op : Text) : Text :=
  op ++ ": argument expected".toList

mutual

def either (state : State) : Nat → Bool → List Text → Except Text (Bool × List Text)
  | 0, sofar, words => .ok (sofar, words)
  | fuel + 1, sofar, words => do
    let (holds, last) ← both state fuel true words
    if isJoiner "-o" last.tail then either state fuel (sofar || holds) last.tail.tail
    else .ok (sofar || holds, last)

def both (state : State) : Nat → Bool → List Text → Except Text (Bool × List Text)
  | 0, sofar, words => .ok (sofar, words)
  | fuel + 1, sofar, words => do
    let (holds, last) ← negated state fuel words
    if isJoiner "-a" last.tail then both state fuel (sofar && holds) last.tail.tail
    else .ok (sofar && holds, last)

def negated (state : State) : Nat → List Text → Except Text (Bool × List Text)
  | 0, words => .ok (false, words)
  | fuel + 1, words =>
    if isJoiner "!" words then
      if words.tail = [] then .ok (true, words)
      else do
        let (holds, last) ← negated state fuel words.tail
        .ok (!holds, last)
    else single state fuel words

def single (state : State) : Nat → List Text → Except Text (Bool × List Text)
  | 0, words => .ok (false, words)
  | fuel + 1, words =>
    match words, kind words with
    | [], _ => .ok (false, [])
    | op :: arg :: rest, .unary => do
      let holds ← unary state op arg
      .ok (holds, arg :: rest)
    | [op], .unary => .error (expected op)
    | word :: rest, _ =>
      if isJoiner "(" words then
        if isJoiner ")" rest then .ok (false, rest)
        else do
          let (holds, last) ← either state fuel false rest
          if isJoiner ")" last.tail then .ok (holds, last.tail)
          else .error "closing paren expected".toList
      else
        match rest, kind rest with
        | op :: b :: more, .binary => do
          let holds ← binary state op word b
          .ok (holds, b :: more)
        | [op], .binary => .error (expected op)
        | _, _ => .ok (!word.isEmpty, words)

end

def expression (state : State) (words : List Text) : Except Text Bool := do
  let (holds, last) ← either state (4 * words.length + 4) false words
  match last with
  | word :: _ :: _ => .error (word ++ ": unexpected operator".toList)
  | _ => .ok holds

/-- A test by its words. Three words with a binary operator in the middle are one comparison, and
brackets or a negation around the rest come before all else. -/
def holds (state : State) (words : List Text) : Except Text Bool :=
  match words with
  | [] => .ok false
  | [a, op, b] =>
    if binaryOps.contains op then binary state op a b
    else if a = ['('] ∧ b = [')'] then expression state [op]
    else if a = ['!'] then (expression state [op, b]).map (!·)
    else expression state words
  | [a, b, c, d] =>
    if a = ['('] ∧ d = [')'] then expression state [b, c]
    else if a = ['!'] then (expression state [b, c, d]).map (!·)
    else expression state words
  | _ => expression state words

def bracketed (words : List Text) : Except Text (List Text) :=
  if words.getLast? = some [']'] then .ok words.dropLast else .error "missing ]".toList

end WorkerLint.Shell.Test
