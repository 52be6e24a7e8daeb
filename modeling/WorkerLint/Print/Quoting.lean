import WorkerLint.Print.Escape

namespace WorkerLint.Print

def isPrintable (c : Char) : Bool :=
  ' ' ≤ c && c ≤ '~'

def octalDigits (c : Char) : Text :=
  let digits := Nat.toDigits 8 c.toNat
  List.replicate (3 - digits.length) '0' ++ digits

def backslashed (c : Char) : Text :=
  match c with
  | '\x07' => "\\a".toList
  | '\x08' => "\\b".toList
  | '\x0c' => "\\f".toList
  | '\n' => "\\n".toList
  | '\r' => "\\r".toList
  | '\t' => "\\t".toList
  | '\x0b' => "\\v".toList
  | _ => '\\' :: octalDigits c

def singleQuoted (text : Text) : Text :=
  '\'' :: (text.flatMap fun c =>
    if c = '\'' ∨ c = '\\' then ['\\', c]
    else if isPrintable c then [c]
    else backslashed c) ++ ['\'']

def isSpecialChar (c : Char) : Bool :=
  c ∈ " !\"$&'()*;<=>?[\\^\x60|".toList || !isPrintable c

def isTame (c : Char) : Bool :=
  c.isAlphanum || c ∈ "%+,-./:@]_ '".toList

def isTameFirst (c : Char) : Bool :=
  c = '#' || c = '~'

def allTame : Text → Bool
  | [] => true
  | first :: rest => (isTame first || isTameFirst first) && rest.all isTame

def needsQuotes (text : Text) : Bool :=
  match text with
  | [] => true
  | ['\x7b'] => true
  | ['\x7d'] => true
  | first :: _ => isTameFirst first || text.any isSpecialChar

/-- The rest of a text that stands in single quotes, or, after a character that has no picture,
in quotes with a dollar sign. -/
def quotedTail (inEscape : Bool) : Text → Text
  | [] => ['\'']
  | c :: rest =>
    if !isPrintable c then
      (if inEscape then [] else "'$'".toList) ++ backslashed c ++ quotedTail true rest
    else if c = '\'' then "'\\''".toList ++ quotedTail false rest
    else (if inEscape then "''".toList else []) ++ c :: quotedTail false rest

/-- A text as a shell would have to be given it: as it is, in double quotes if an apostrophe is the
only difficulty, or in single quotes. -/
def shellWord (text : Text) : Text :=
  if !needsQuotes text then text
  else if '\'' ∈ text ∧ allTame text then '"' :: text ++ ['"']
  else '\'' :: quotedTail false text

end WorkerLint.Print
