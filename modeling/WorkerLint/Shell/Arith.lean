import WorkerLint.Print.Integer
import WorkerLint.Shell.State

namespace WorkerLint.Shell.Arith

open Print

inductive Symbol
  | number (value : Int)
  | name (text : Text)
  | op (text : Text)
  | bad
  | finish
  deriving DecidableEq, Repr

def ops : List Text :=
  ["<<=", ">>=", "||", "&&", "==", "!=", "<=", ">=", "<<", ">>", "+=", "-=", "*=", "/=", "%=",
    "&=", "^=", "|=", "|", "^", "&", "<", ">", "+", "-", "*", "/", "%", "=", "?", ":", "(", ")",
    "!", "~"].map String.toList

def symbol (text : Text) : Symbol × Text :=
  let body := text.dropWhile standardSeparators.elem
  match body with
  | [] => (.finish, [])
  | c :: _ =>
    if c.isDigit then
      let (value, _, rest) := magnitude body
      (.number (clampSigned value), rest)
    else if isNameStart c then
      let name := body.takeWhile isNameChar
      (.name name, body.drop name.length)
    else
      match ops.findSome? fun op => (Text.after? op body).map (op, ·) with
      | some (op, rest) => (.op op, rest)
      | none => (.bad, body)

/-- How strongly an operator binds; the strongest has the least number. -/
def level? (op : Text) : Option Nat :=
  let levels : List (List String) :=
    [["*", "/", "%"], ["+", "-"], ["<<", ">>"], ["<", "<=", ">", ">="], ["==", "!="], ["&"], ["^"],
      ["|"]]
  levels.findIdx? (·.any (·.toList == op))

def binary? (text : Text) : Option (Text × Nat × Text) :=
  match symbol text with
  | (.op op, rest) => (level? op).map fun level => (op, level, rest)
  | _ => none

def assigned? (op : Text) : Option Text :=
  if op = "=".toList then some []
  else if ["==", "!=", "<=", ">="].any (·.toList == op) then none
  else if op.getLast? = some '=' then some op.dropLast
  else none

def wrap (value : Int) : Int :=
  Int.bmod value 18446744073709551616

def ofBool (b : Bool) : Int :=
  if b then 1 else 0

def toBits (value : Int) : BitVec 64 :=
  BitVec.ofInt 64 value

def ofInt (value : Int) : Text :=
  if value < 0 then '-' :: Text.ofNat value.natAbs else Text.ofNat value.natAbs

def fault (whole : Text) (what : String) : Act α :=
  Act.fail ("arithmetic expression: ".toList ++ what.toList ++ ": \"".toList ++ whole ++ ['"'])

def divisionSignal : Nat := 8

def divide (whole : Text) (a b : Int) (result : Int) : Act Int :=
  if b = 0 then fault whole "division by zero"
  else if b = -1 ∧ a = -(wordSize / 2) then Act.leap (.killed divisionSignal)
  else pure result

def operate (whole op : Text) (a b : Int) : Act Int :=
  match String.ofList op with
  | "|" => pure (toBits a ||| toBits b).toInt
  | "^" => pure (toBits a ^^^ toBits b).toInt
  | "&" => pure (toBits a &&& toBits b).toInt
  | "==" => pure (ofBool (a == b))
  | "!=" => pure (ofBool (a != b))
  | "<" => pure (ofBool (a < b))
  | "<=" => pure (ofBool (a ≤ b))
  | ">" => pure (ofBool (b < a))
  | ">=" => pure (ofBool (b ≤ a))
  | "<<" => pure (toBits a <<< (b % 64).toNat).toInt
  | ">>" => pure ((toBits a).sshiftRight (b % 64).toNat).toInt
  | "+" => pure (wrap (a + b))
  | "-" => pure (wrap (a - b))
  | "*" => pure (wrap (a * b))
  | "/" => divide whole a b (a.tdiv b)
  | "%" => divide whole a b (a.tmod b)
  | _ => pure 0

def number? (text : Text) : Option Int :=
  let body := Text.dropEndWhile isSpace text
  let reading := readInteger true body
  if body = [] then some 0
  else if reading.extent = .whole ∧ ¬reading.tooLarge then some reading.value
  else none

def lookup (name : Text) : Act Int := do
  match (← get).value? name with
  | none => pure 0
  | some text =>
    match number? text with
    | some value => pure value
    | none => Act.fail ("Illegal number: ".toList ++ text)

mutual

/-- An assignment, or else an expression without one. Where `idle` is true nothing is done. Gives
the value and the text that is left. -/
def assignment (whole : Text) : Nat → Bool → Text → Act (Int × Text)
  | 0, _, text => pure (0, text)
  | fuel + 1, idle, text => do
    match symbol text with
    | (.name name, after) =>
      match symbol after with
      | (.op op, rest) =>
        match assigned? op with
        | some inner =>
          let (value, rest) ← assignment whole fuel idle rest
          if idle then pure (value, rest)
          else
            let result ←
              if inner = [] then pure value
              else do operate whole inner (← lookup name) value
            Act.setVariable name (ofInt result)
            pure (result, rest)
        | none => choice whole fuel idle text
      | _ => choice whole fuel idle text
    | _ => choice whole fuel idle text

def choice (whole : Text) : Nat → Bool → Text → Act (Int × Text)
  | 0, _, text => pure (0, text)
  | fuel + 1, idle, text => do
    let (condition, rest) ← either whole fuel idle text
    match symbol rest with
    | (.op ['?'], rest) =>
      let (yes, rest) ← assignment whole fuel (idle || condition == 0) rest
      match symbol rest with
      | (.op [':'], rest) =>
        let (no, rest) ← choice whole fuel (idle || condition != 0) rest
        pure (if condition ≠ 0 then yes else no, rest)
      | _ => fault whole "expecting ':'"
    | _ => pure (condition, rest)

def either (whole : Text) : Nat → Bool → Text → Act (Int × Text)
  | 0, _, text => pure (0, text)
  | fuel + 1, idle, text => do
    let (a, rest) ← both whole fuel idle text
    match symbol rest with
    | (.op ['|', '|'], rest) =>
      let (b, rest) ← either whole fuel (idle || a != 0) rest
      pure (ofBool (a != 0 || b != 0), rest)
    | _ => pure (a, rest)

def both (whole : Text) : Nat → Bool → Text → Act (Int × Text)
  | 0, _, text => pure (0, text)
  | fuel + 1, idle, text => do
    let (a, rest) ← operands whole fuel idle text
    match symbol rest with
    | (.op ['&', '&'], rest) =>
      let (b, rest) ← both whole fuel (idle || a == 0) rest
      pure (ofBool (a != 0 && b != 0), rest)
    | _ => pure (a, rest)

def operands (whole : Text) : Nat → Bool → Text → Act (Int × Text)
  | 0, _, text => pure (0, text)
  | fuel + 1, idle, text => do
    let (a, rest) ← primary whole fuel idle text
    match binary? rest with
    | some (op, level, rest) => joined whole fuel idle a op level 100 rest
    | none => pure (a, rest)

def joined (whole : Text) : Nat → Bool → Int → Text → Nat → Nat → Text → Act (Int × Text)
  | 0, _, a, _, _, _, text => pure (a, text)
  | fuel + 1, idle, a, op, level, weakest, text => do
    let (b, rest) ← primary whole fuel idle text
    let (b, rest) ←
      match binary? rest with
      | some (next, nextLevel, after) =>
        if nextLevel < level then joined whole fuel idle b next nextLevel level after
        else pure (b, rest)
      | none => pure (b, rest)
    let a ← if idle then pure b else operate whole op a b
    match binary? rest with
    | some (next, nextLevel, after) =>
      if nextLevel < weakest then joined whole fuel idle a next nextLevel weakest after
      else pure (a, rest)
    | none => pure (a, rest)

def primary (whole : Text) : Nat → Bool → Text → Act (Int × Text)
  | 0, _, text => pure (0, text)
  | fuel + 1, idle, text => do
    match symbol text with
    | (.number value, rest) => pure (value, rest)
    | (.name name, rest) => pure (← if idle then pure 0 else lookup name, rest)
    | (.op ['('], rest) =>
      let (value, rest) ← assignment whole fuel idle rest
      match symbol rest with
      | (.op [')'], rest) => pure (value, rest)
      | _ => fault whole "expecting ')'"
    | (.op ['+'], rest) => primary whole fuel idle rest
    | (.op ['-'], rest) =>
      let (value, rest) ← primary whole fuel idle rest
      pure (wrap (-value), rest)
    | (.op ['!'], rest) =>
      let (value, rest) ← primary whole fuel idle rest
      pure (ofBool (value == 0), rest)
    | (.op ['~'], rest) =>
      let (value, rest) ← primary whole fuel idle rest
      pure ((~~~ toBits value).toInt, rest)
    | _ => fault whole "expecting primary"

end

def evaluate (expression : Text) : Act Int := do
  let (value, rest) ← assignment expression (20 * expression.length + 20) false expression
  match symbol rest with
  | (.finish, _) => pure value
  | _ => fault expression "expecting EOF"

end WorkerLint.Shell.Arith
