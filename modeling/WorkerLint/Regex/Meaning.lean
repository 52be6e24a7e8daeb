import WorkerLint.Regex.Token

namespace WorkerLint.Regex

structure Flags where
  ignoreCase : Bool
  multiLine : Bool
  dotAll : Bool
  unicode : Bool
  crlf : Bool
  verbose : Bool
  deriving DecidableEq, Repr

namespace Flags

def initial : Flags :=
  ⟨false, false, false, true, false, false⟩

def fold (flags : Flags) (set : CharSet) : CharSet :=
  if !flags.ignoreCase then set
  else if flags.unicode then set.anyCase
  else set.anyAsciiCase

def mates (flags : Flags) (c : Char) : List Char :=
  if !flags.ignoreCase then [c]
  else if flags.unicode then caseMates c
  else [c.toLower, c.toUpper]

def letter (flags : Flags) : ClassLetter → CharSet
  | .digit => if flags.unicode then isDigit else fun c => c.isDigit
  | .blank => if flags.unicode then isBlank else CharSet.asciiBlank
  | .word => if flags.unicode then CharSet.word else CharSet.asciiWord

end Flags

def negate (negated : Bool) (set : CharSet) : CharSet :=
  if negated then set.compl else set

/-- The characters of a class with a letter. Without Unicode a complement would split characters
into bytes. -/
def letterSet (flags : Flags) (kind : ClassLetter) (negated : Bool) : Except Problem CharSet :=
  if negated && !flags.unicode then .error .beyondAscii
  else .ok (negate negated (flags.letter kind))

def propertySet (flags : Flags) (query : Query) (negated : Bool) : Except Problem CharSet :=
  if !flags.unicode then .error .unicodeRefused
  else (Property.find query).map fun set => negate negated (flags.fold set)

def isLoneByte (flags : Flags) (c : Char) (asByte : Bool) : Bool :=
  !flags.unicode && asByte && !CharSet.ascii c

def memberSet (flags : Flags) : Primitive → Except Problem CharSet
  | .literal c asByte =>
    if isLoneByte flags c asByte then .error .beyondAscii
    else if !flags.unicode && !CharSet.ascii c then .error .unicodeRefused
    else .ok (.single c)
  | .letter kind negated => letterSet flags kind negated
  | .property query negated => propertySet flags query negated
  | _ => .error .classEscape

def dotSet (flags : Flags) : Except Problem CharSet :=
  if !flags.unicode then .error .beyondAscii
  else if flags.dotAll then .ok fun _ => true
  else if flags.crlf then .ok fun c => c != '\n' && c != '\r'
  else .ok fun c => c != '\n'

def lineStart (flags : Flags) : Anchor :=
  if !flags.multiLine then .textStart
  else if flags.crlf then .lineStartCr
  else .lineStart

def lineEnd (flags : Flags) : Anchor :=
  if !flags.multiLine then .textEnd
  else if flags.crlf then .lineEndCr
  else .lineEnd

def meaning (flags : Flags) : Primitive → Except Problem Regex
  | .literal c asByte =>
    if isLoneByte flags c asByte then .error .beyondAscii
    else .ok (.oneOf (flags.mates c))
  | .letter kind negated => (letterSet flags kind negated).map .chars
  | .property query negated => (propertySet flags query negated).map .chars
  | .dot => (dotSet flags).map .chars
  | .lineStart => .ok (.look (lineStart flags))
  | .lineEnd => .ok (.look (lineEnd flags))
  | .textStart => .ok (.look .textStart)
  | .textEnd => .ok (.look .textEnd)
  | .edge edge => .ok (.look (.words flags.unicode edge))

end WorkerLint.Regex
