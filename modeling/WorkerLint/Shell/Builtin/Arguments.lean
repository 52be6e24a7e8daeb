import WorkerLint.Print.Integer
import WorkerLint.Shell.State

namespace WorkerLint.Shell

abbrev Builtin := List Text → Act Nat

namespace Builtin

structure Given where
  options : List (Char × Text)
  rest : List Text
  deriving DecidableEq, Repr

def Given.has (given : Given) (letter : Char) : Bool :=
  given.options.any (·.1 = letter)

def lettersOf (plain valued : List Char) : Text → List Text → Act (List (Char × Text) × List Text)
  | [], rest => pure ([], rest)
  | letter :: more, rest =>
    if plain.elem letter then do
      let (options, rest) ← lettersOf plain valued more rest
      pure ((letter, []) :: options, rest)
    else if valued.elem letter then
      match more, rest with
      | _ :: _, rest => pure ([(letter, more)], rest)
      | [], value :: rest => pure ([(letter, value)], rest)
      | [], [] => Act.fail ("No arg for -".toList ++ letter :: " option".toList)
    else Act.fail ("Illegal option -".toList ++ [letter])

def optionsFrom (plain valued : List Char) : Nat → List Text → Act Given
  | 0, args => pure ⟨[], args⟩
  | fuel + 1, args =>
    match args with
    | ['-', '-'] :: rest => pure ⟨[], rest⟩
    | ('-' :: letter :: more) :: rest => do
      let (options, rest) ← lettersOf plain valued (letter :: more) rest
      let given ← optionsFrom plain valued fuel rest
      pure { given with options := options ++ given.options }
    | _ => pure ⟨[], args⟩

def options (plain valued : String) (args : List Text) : Act Given :=
  optionsFrom plain.toList valued.toList (args.length + 1) args

def number? (text : Text) : Option Nat :=
  let (negative, digits) := Print.signed (Text.strip Print.isSpace text)
  let value := Text.digitsValue digits
  if digits ≠ [] ∧ digits.all Char.isDigit ∧ (¬negative ∨ value = 0) ∧ value ≤ 2147483647 then
    some value
  else none

def number (text : Text) : Act Nat :=
  match number? text with
  | some value => pure value
  | none => Act.fail ("Illegal number: ".toList ++ text)

def quoteFrom : Nat → Text → Text
  | 0, _ => []
  | fuel + 1, text =>
    let plain := text.takeWhile (· ≠ '\'')
    let rest := text.drop plain.length
    let quotes := rest.takeWhile (· = '\'')
    let after := rest.drop quotes.length
    '\'' :: plain ++ ['\''] ++
      (if quotes = [] then [] else '"' :: quotes ++ ['"']) ++
      (if quotes = [] ∨ after = [] then [] else quoteFrom fuel after)

def quote (text : Text) : Text :=
  quoteFrom (text.length + 1) text

/-- Names in the order in which a table of so many rows lists them: by row, and in a row as they
came. -/
def tableOrder (rows : Nat) (names : List Text) : List Text :=
  let row (name : Text) : Nat :=
    let first := (name.head?.map fun c => 16 * c.toNat).getD 0
    (name.foldl (fun sum c => sum + c.toNat) first) % 32768 % rows
  (List.range rows).flatMap fun number => names.filter fun name => row name = number

def ending (status : Nat) : Builtin := fun _ =>
  pure status

end Builtin

end WorkerLint.Shell
