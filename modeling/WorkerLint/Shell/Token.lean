import WorkerLint.Shell.Command
import WorkerLint.Shell.Source

namespace WorkerLint.Shell

inductive RedirectOp
  | toFile (mode : OpenMode)
  | copy
  | lines (dropTabs : Bool)
  deriving DecidableEq, Repr

inductive Token
  | word
  | keyword (text : Text)
  | op (symbol : Text)
  | newline
  | redirect (fd : Nat) (op : RedirectOp)
  | finish
  deriving DecidableEq, Repr

def keywords : List Text :=
  ["!".toList, "case".toList, "do".toList, "done".toList, "elif".toList, "else".toList,
    "esac".toList, "fi".toList, "for".toList, "if".toList, "in".toList, "then".toList,
    "until".toList, "while".toList, "\x7b".toList, "\x7d".toList]

namespace Token

def name : Token → Text
  | .word => "word".toList
  | .keyword text => '"' :: text ++ ['"']
  | .op symbol => '"' :: symbol ++ ['"']
  | .newline => "newline".toList
  | .redirect _ _ => "redirection".toList
  | .finish => "end of file".toList

def isOp (token : Token) (symbol : String) : Bool :=
  match token with
  | .op text => text == symbol.toList
  | _ => false

def isKeyword (token : Token) (word : String) : Bool :=
  match token with
  | .keyword text => text == word.toList
  | _ => false

def closesList : Token → Bool
  | .finish => true
  | .op symbol => symbol == ")".toList || symbol == ";;".toList
  | .keyword text =>
    ["do", "done", "elif", "else", "esac", "fi", "then", "\x7d"].any (·.toList == text)
  | _ => false

end Token

inductive Reading
  | base
  | double
  | single
  | sum
  deriving DecidableEq, Repr

inductive CharRole
  | ordinary
  | newline
  | backslash
  | singleQuote
  | doubleQuote
  | endQuote
  | dollar
  | endBrace
  | openParen
  | closeParen
  | backquote
  | special
  deriving DecidableEq, Repr

def Reading.role (reading : Reading) (c : Char) : CharRole :=
  if c = '\n' then .newline
  else if reading = .single then if c = '\'' then .endQuote else .ordinary
  else if c = '\\' then .backslash
  else if c = '\x60' then .backquote
  else if c = '$' then .dollar
  else if c = '\x7d' then .endBrace
  else
    match reading with
    | .base =>
      if c = '\'' then .singleQuote
      else if c = '"' then .doubleQuote
      else if "<>();&| \t".toList.elem c then .special
      else .ordinary
    | .double => if c = '"' then .endQuote else .ordinary
    | .sum =>
      if c = '(' then .openParen
      else if c = ')' then .closeParen
      else .ordinary
    | .single => .ordinary

structure Frame where
  reading : Reading
  innerDouble : Bool
  ofBraces : Bool
  isDouble : Bool
  braces : Nat
  parens : Nat
  /-- How many of the braces opened in double quotes. -/
  doubleBraces : Nat
  deriving DecidableEq, Repr

def Frame.start (reading : Reading) : Frame :=
  ⟨reading, false, false, reading = .double || reading = .sum, 0, 0, 0⟩

inductive Mark
  | part (part : Part)
  | openParam (name : Text) (use : ParamUse)
  | closeParam
  | openSum
  | closeSum

/-- The parts that marks make up to a closing one, and the marks that follow it. A plain value has
no operand, so a closing mark after it ends what it stands in. -/
def Mark.parts : Nat → List Mark → Word × List Mark
  | 0, marks => ([], marks)
  | _, [] => ([], [])
  | fuel + 1, mark :: rest =>
    let put (part : Part) (rest : List Mark) : Word × List Mark :=
      let (more, left) := parts fuel rest
      (part :: more, left)
    match mark with
    | .part item => put item rest
    | .openParam name use =>
      match use with
      | .value _ => put (.param name use []) rest
      | _ =>
        let (operand, left) := parts fuel rest
        put (.param name use operand) left
    | .openSum =>
      let (expression, left) := parts fuel rest
      put (.sum expression) left
    | .closeParam => ([], rest)
    | .closeSum => ([], rest)

def Mark.word (marks : List Mark) : Word :=
  (Mark.parts (marks.length + 1) marks).1

end WorkerLint.Shell
