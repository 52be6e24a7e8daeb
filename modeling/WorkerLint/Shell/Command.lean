import WorkerLint.Machine

/-! Commands of the shell language. -/

namespace WorkerLint.Shell

/-- What is made of a parameter. The flags tell whether an empty value counts as missing, or
whether the longest match is cut off. -/
inductive ParamUse
  | value (emptyToo : Bool)
  | length
  | orElse (emptyToo : Bool)
  | orAssign (emptyToo : Bool)
  | orFail (emptyToo : Bool)
  | ifPresent (emptyToo : Bool)
  | withoutStart (longest : Bool)
  | withoutEnd (longest : Bool)
  | wrong
  deriving DecidableEq, Repr

mutual

inductive Part
  | plain (c : Char)
  | quoted (c : Char)
  | edge
  | param (name : Text) (use : ParamUse) (operand : List Part)
  | output (command : Command)
  | sum (expression : List Part)

inductive Redirect
  | toFile (fd : Nat) (mode : OpenMode) (file : List Part)
  | copy (fd : Nat) (source : List Part)
  | fromText (fd : Nat) (number : Nat)

inductive Command
  | nothing
  | simple (line : Nat) (assigns : List (Text × List Part)) (words : List (List Part))
      (redirects : List Redirect)
  | redirected (line : Nat) (command : Command) (redirects : List Redirect)
  | pipe (stages : List Command) (background : Bool)
  | both (left right : Command)
  | either (left right : Command)
  | negated (command : Command)
  | sequence (left right : Command)
  | subshell (line : Nat) (body : Command) (redirects : List Redirect) (background : Bool)
  | branch (condition yes no : Command)
  | repeated (whileFailing : Bool) (condition body : Command)
  | forEach (line : Nat) (name : Text) (items : List (List Part)) (body : Command)
  | select (line : Nat) (subject : List Part) (arms : List (List (List Part) × Command))
  | define (line : Nat) (name : Text) (body : Command)

end

abbrev Word := List Part

namespace Word

def bare? : Word → Option Text
  | [] => some []
  | .plain c :: rest => (bare? rest).map (c :: ·)
  | _ :: _ => none

def unquoted (word : Word) : Text :=
  word.flatMap fun
    | .plain c => [c]
    | .quoted c => [c]
    | _ => []

end Word

def isNameStart (c : Char) : Bool :=
  c.isAlpha || c = '_'

def isNameChar (c : Char) : Bool :=
  isNameStart c || c.isDigit

def isName : Text → Bool
  | [] => false
  | first :: rest => isNameStart first && rest.all isNameChar

def Word.leadingName : Word → Text × Word
  | .plain c :: rest =>
    if isNameChar c then
      let (name, after) := leadingName rest
      (c :: name, after)
    else ([], .plain c :: rest)
  | word => ([], word)

def Word.assignment? (word : Word) : Option (Text × Word) :=
  match word.leadingName with
  | (name, .plain '=' :: value) => if isName name then some (name, value) else none
  | _ => none

end WorkerLint.Shell
