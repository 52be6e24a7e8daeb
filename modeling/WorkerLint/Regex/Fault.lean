import WorkerLint.Text

namespace WorkerLint.Regex

structure Span where
  start : Nat
  stop : Nat
  deriving DecidableEq, Repr

inductive Problem
  | classEscape
  | classRangeOrder
  | classRangeBound
  | classUnclosed
  | decimalEmpty
  | decimalTooLarge
  | hexEmpty
  | hexNoCharacter
  | hexDigit
  | escapeUnfinished
  | escapeUnknown
  | flagDangling
  | flagRepeated
  | negationRepeated
  | flagUnfinished
  | flagUnknown
  | nameRepeated
  | nameEmpty
  | nameCharacter
  | nameUnclosed
  | groupUnclosed
  | groupUnopened
  | countOrder
  | countEmpty
  | countUnclosed
  | nothingToRepeat
  | edgeUnclosed
  | edgeUnknown
  | edgeUnfinished
  | propertyEscape
  | backreference
  | lookAround
  | nestedTooDeep
  | unicodeRefused
  | beyondAscii
  | propertyUnknown
  | propertyValueUnknown
  deriving DecidableEq, Repr

def Problem.message : Problem → String
  | .classEscape => "invalid escape sequence found in character class"
  | .classRangeOrder => "invalid character class range, the start must be <= the end"
  | .classRangeBound => "invalid range boundary, must be a literal"
  | .classUnclosed => "unclosed character class"
  | .decimalEmpty => "decimal literal empty"
  | .decimalTooLarge => "decimal literal invalid"
  | .hexEmpty => "hexadecimal literal empty"
  | .hexNoCharacter => "hexadecimal literal is not a Unicode scalar value"
  | .hexDigit => "invalid hexadecimal digit"
  | .escapeUnfinished => "incomplete escape sequence, reached end of pattern prematurely"
  | .escapeUnknown => "unrecognized escape sequence"
  | .flagDangling => "dangling flag negation operator"
  | .flagRepeated => "duplicate flag"
  | .negationRepeated => "flag negation operator repeated"
  | .flagUnfinished => "expected flag but got end of regex"
  | .flagUnknown => "unrecognized flag"
  | .nameRepeated => "duplicate capture group name"
  | .nameEmpty => "empty capture group name"
  | .nameCharacter => "invalid capture group character"
  | .nameUnclosed => "unclosed capture group name"
  | .groupUnclosed => "unclosed group"
  | .groupUnopened => "unopened group"
  | .countOrder => "invalid repetition count range, the start must be <= the end"
  | .countEmpty => "repetition quantifier expects a valid decimal"
  | .countUnclosed => "unclosed counted repetition"
  | .nothingToRepeat => "repetition operator missing expression"
  | .edgeUnclosed =>
    "special word boundary assertion is either unclosed or contains an invalid character"
  | .edgeUnknown =>
    "unrecognized special word boundary assertion, valid choices are: start, end, " ++
      "start-half or end-half"
  | .edgeUnfinished =>
    "found either the beginning of a special word boundary or a bounded repetition on a \\b " ++
      "with an opening brace, but no closing brace"
  | .propertyEscape => "invalid Unicode character class"
  | .backreference => "backreferences are not supported"
  | .lookAround => "look-around, including look-ahead and look-behind, is not supported"
  | .nestedTooDeep => "exceed the maximum number of nested parentheses/brackets (250)"
  | .unicodeRefused => "Unicode not allowed here"
  | .beyondAscii => "pattern can match invalid UTF-8"
  | .propertyUnknown => "Unicode property not found"
  | .propertyValueUnknown => "Unicode property value not found"

/-- A problem, where it lies, and the place that it repeats or contradicts. -/
structure Fault where
  problem : Problem
  span : Span
  earlier : Option Span
  deriving DecidableEq, Repr

def Fault.over (problem : Problem) (start stop : Nat) : Fault :=
  ⟨problem, ⟨start, stop⟩, none⟩

structure Position where
  line : Nat
  column : Nat
  deriving DecidableEq, Repr

def Position.step (position : Position) (c : Char) : Position :=
  if c = '\n' then ⟨position.line + 1, 1⟩ else ⟨position.line, position.column + 1⟩

def Position.of (pattern : Text) (number : Nat) : Position :=
  (pattern.take number).foldl Position.step ⟨1, 1⟩

namespace Fault

def spans (fault : Fault) : List Span :=
  match fault.earlier with
  | none => [fault.span]
  | some span => if span.start ≤ fault.span.start then [span, fault.span] else [fault.span, span]

def onOneLine (pattern : Text) (span : Span) : Bool :=
  (Position.of pattern span.start).line = (Position.of pattern span.stop).line

def mark (pattern : Text) (marks : Text) (span : Span) : Text :=
  let first := (Position.of pattern span.start).column
  let width := max 1 ((Position.of pattern span.stop).column - first)
  marks ++ List.replicate (first - 1 - marks.length) ' ' ++ List.replicate width '^'

def marksOn (fault : Fault) (pattern : Text) (line : Nat) : Option Text :=
  let here := fault.spans.filter fun span =>
    onOneLine pattern span && (Position.of pattern span.start).line = line
  if here = [] then none else some (here.foldl (mark pattern) [])

/-- The lines of a pattern with the marks under them. Lines are numbered if there are several. -/
def notedLines (fault : Fault) (pattern : Text) (width : Nat) : Nat → List Text → Text
  | _, [] => []
  | number, line :: rest =>
    let digits := Text.ofNat number
    let margin :=
      if width = 0 then "    ".toList
      else List.replicate (width - digits.length) ' ' ++ digits ++ ": ".toList
    let marks :=
      match fault.marksOn pattern number with
      | none => []
      | some marks => List.replicate margin.length ' ' ++ marks ++ ['\n']
    margin ++ line ++ ['\n'] ++ marks ++ notedLines fault pattern width (number + 1) rest

def lineCount (pattern : Text) : Nat :=
  (Text.lines pattern).length + if pattern.getLast? = some '\n' then 1 else 0

def noted (fault : Fault) (pattern : Text) : Text :=
  let count := lineCount pattern
  let width := if count ≤ 1 then 0 else (Text.ofNat count).length
  notedLines fault pattern width 1 (Text.lines pattern)

def extentNote (pattern : Text) (span : Span) : Text :=
  let first := Position.of pattern span.start
  let last := Position.of pattern span.stop
  "on line ".toList ++ Text.ofNat first.line ++ " (column ".toList ++ Text.ofNat first.column ++
    ") through line ".toList ++ Text.ofNat last.line ++ " (column ".toList ++
    Text.ofNat (last.column - 1) ++ ")\n".toList

def report (fault : Fault) (pattern : Text) : Text :=
  let problem := "error: ".toList ++ fault.problem.message.toList
  if '\n' ∈ pattern then
    let divider := List.replicate 79 '~' ++ ['\n']
    let wide := fault.spans.filter fun span => !onOneLine pattern span
    "regex parse error:\n".toList ++ divider ++ fault.noted pattern ++ divider ++
      wide.flatMap (extentNote pattern) ++ problem
  else "regex parse error:\n".toList ++ fault.noted pattern ++ problem

end Fault

end WorkerLint.Regex
