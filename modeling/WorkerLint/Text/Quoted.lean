import WorkerLint.Text.Bytes
import WorkerLint.Text.Visible

namespace WorkerLint.Text

def hex (n : Nat) : Text :=
  Nat.toDigits 16 n

def codePoint (c : Char) : Text :=
  "\\u\x7b".toList ++ hex c.toNat ++ "\x7d".toList

def quotedChar (c : Char) : Text :=
  if c = '\x00' then "\\0".toList
  else if c = '\t' then "\\t".toList
  else if c = '\r' then "\\r".toList
  else if c = '\n' then "\\n".toList
  else if c = '"' ∨ c = '\\' then ['\\', c]
  else if isVisible c then [c]
  else codePoint c

def quoted (text : Text) : Text :=
  '"' :: text.flatMap quotedChar ++ ['"']

def quotedList (texts : List Text) : Text :=
  '[' :: join ", ".toList (texts.map quoted) ++ [']']

def hexByte (n : Nat) : Text :=
  if n < 16 then '0' :: hex n else hex n

/-- A character of a program name: as in other quoted texts, but the apostrophe takes a backslash
as well, and the remaining ASCII controls are written as bytes. -/
def quotedProgramChar (c : Char) : Text :=
  if c = '\'' then ['\\', c]
  else if c.toNat < 0x80 ∧ ¬isVisible c ∧ c ∉ ['\x00', '\t', '\r', '\n'] then
    "\\x".toList ++ hexByte c.toNat
  else quotedChar c

def withoutNul (word : Bytes) : Bytes :=
  if 0 ∈ word then "<string-with-nul>".toList else word

/-- A word in quotes; a byte that belongs to no character is written by its number. -/
def quotedWord (shown : Char → Text) (word : Bytes) : Text :=
  let part : Char ⊕ UInt8 → Text
    | .inl c => shown c
    | .inr b => "\\x".toList ++ (hexByte b.toNat).map Char.toUpper
  '"' :: (Utf8.parts (withoutNul word)).flatMap part ++ ['"']

def quotedCommand : List Bytes → List Text
  | [] => []
  | program :: args => quotedWord quotedProgramChar program :: args.map (quotedWord quotedChar)

end WorkerLint.Text
