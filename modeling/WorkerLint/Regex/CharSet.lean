import WorkerLint.Text
import WorkerLint.Text.Case
import WorkerLint.Text.Letter
import WorkerLint.Text.Mark
import WorkerLint.Text.Number
import WorkerLint.Text.Sign

namespace WorkerLint

abbrev CharSet := Char → Bool

namespace CharSet

def none : CharSet :=
  fun _ => false

def single (c : Char) : CharSet :=
  fun d => d == c

def range (low high : Char) : CharSet :=
  fun c => low ≤ c && c ≤ high

def union (s t : CharSet) : CharSet :=
  fun c => s c || t c

def inter (s t : CharSet) : CharSet :=
  fun c => s c && t c

def diff (s t : CharSet) : CharSet :=
  fun c => s c && !t c

def symmDiff (s t : CharSet) : CharSet :=
  fun c => s c != t c

def compl (s : CharSet) : CharSet :=
  fun c => !s c

def ascii : CharSet :=
  fun c => c.toNat < 0x80

def anyCase (s : CharSet) : CharSet :=
  fun c => (caseMates c).any s

def anyAsciiCase (s : CharSet) : CharSet :=
  fun c => s c || s c.toLower || s c.toUpper

/-- Characters of words: letters, marks, digits, numbers that are letters, connectors and
joiners. -/
def word : CharSet :=
  fun c => isLetter c || isMark c || isDigit c || letterNumberRanges.holds c ||
    letterlikeRanges.holds c || connectorRanges.holds c || c == '\u200c' || c == '\u200d'

def asciiWord : CharSet :=
  fun c => c.isAlphanum || c == '_'

def asciiBlank : CharSet :=
  fun c => c == ' ' || (9 ≤ c.toNat && c.toNat ≤ 13)

def graph : CharSet :=
  range '!' '~'

def named? (name : Text) : Option CharSet :=
  [("alnum", fun c => c.isAlphanum), ("alpha", fun c => c.isAlpha), ("ascii", ascii),
    ("blank", fun c => c == ' ' || c == '\t'), ("cntrl", fun c => c < ' ' || c == '\x7f'),
    ("digit", fun c => c.isDigit), ("graph", graph), ("lower", range 'a' 'z'),
    ("print", range ' ' '~'), ("punct", fun c => graph c && !c.isAlphanum),
    ("space", asciiBlank), ("upper", range 'A' 'Z'), ("word", asciiWord),
    ("xdigit", fun c => c.isDigit || range 'a' 'f' c || range 'A' 'F' c)].findSome? fun entry =>
      if entry.1.toList = name then some entry.2 else Option.none

end CharSet

end WorkerLint
