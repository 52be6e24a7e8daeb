import WorkerLint.Fault

namespace WorkerLint.Directive

def token : Text :=
  "importScripts".toList

def mentions (line : Text) : Bool :=
  Text.contains token line

/-- The arguments of a call that stands at the start of the text: the token, blanks, an opening
parenthesis, and all up to the first closing one. Line ends may occur among the arguments. -/
def argumentsAt? (text : Text) : Option Text :=
  match Text.after? token text with
  | none => none
  | some rest =>
    match rest.dropWhile isBlank with
    | '(' :: body => if ')' ∈ body then some (body.takeWhile (· ≠ ')')) else none
    | _ => none

def arguments? : Text → Option Text
  | [] => none
  | c :: rest =>
    match argumentsAt? (c :: rest) with
    | some arguments => some arguments
    | none => arguments? rest

def isQuote (c : Char) : Bool :=
  c = '\'' || c = '"'

def bareName (argument : Text) : Text :=
  Text.trim (Text.strip isQuote (Text.trim argument))

def names (arguments : Text) : List Text :=
  ((Text.pieces ',' arguments).map bareName).filter (· ≠ [])

def imports (line : Text) : Except Fault (List Text) :=
  match arguments? line with
  | some arguments => .ok (names arguments)
  | none => .error (.malformed (Text.trimEnd line))

def distinct (items : List Text) : List Text :=
  items.eraseDups

def allImports : List Text → Except Fault (List Text)
  | [] => .ok []
  | line :: rest =>
    if mentions line then
      match imports line with
      | .error fault => .error fault
      | .ok names =>
        match allImports rest with
        | .error fault => .error fault
        | .ok more => .ok (names ++ more)
    else allImports rest

/-- Every import of a script once, in the order of first mention. The first malformed directive
is an error. -/
def collect (lines : List Text) : Except Fault (List Text) :=
  match allImports lines with
  | .error fault => .error fault
  | .ok names => .ok (distinct names)

end WorkerLint.Directive
