import WorkerLint.Regex.Property
import WorkerLint.Tool.Perl
import WorkerLint.Tool.Perl.Fault

namespace WorkerLint.Tool.Perl

structure Settings where
  ignoreCase : Bool
  multiLine : Bool
  dotAll : Bool
  extended : Bool
  extendedMore : Bool
  unnumbered : Bool
  reluctant : Bool
  repeatedNames : Bool
  deriving DecidableEq, Repr

def Settings.none : Settings :=
  ⟨false, false, false, false, false, false, false, false⟩

def isOctalDigit (c : Char) : Bool :=
  '0' ≤ c && c ≤ '7'

def isHexDigit (c : Char) : Bool :=
  c.isDigit || ('a' ≤ c && c ≤ 'f') || ('A' ≤ c && c ≤ 'F')

def digitIn (c : Char) : Nat :=
  if c.isDigit then c.toNat - '0'.toNat else c.toLower.toNat - 'a'.toNat + 10

def valueOf (base : Nat) (digits : Text) : Nat :=
  digits.foldl (fun value c => value * base + digitIn c) 0

def fold (settings : Settings) (set : CharSet) : CharSet :=
  if settings.ignoreCase then set.anyAsciiCase else set

def single (settings : Settings) (c : Char) : Perl :=
  .chars (fold settings (.single c))

def digitSet : CharSet := fun c => c.isDigit

def flatBlank : CharSet := fun c => c == '\t' || c == ' ' || c == '\xa0'

def lineBreak : CharSet := fun c => ('\n' ≤ c && c ≤ '\r') || c == '\x85'

def letterSet? : Char → Option CharSet
  | 'd' => some digitSet
  | 'D' => some digitSet.compl
  | 'w' => some CharSet.asciiWord
  | 'W' => some CharSet.asciiWord.compl
  | 's' => some CharSet.asciiBlank
  | 'S' => some CharSet.asciiBlank.compl
  | 'h' => some flatBlank
  | 'H' => some flatBlank.compl
  | 'v' => some lineBreak
  | 'V' => some lineBreak.compl
  | _ => none

def bracedCode (base : Nat) (isDigit : Char → Bool) (other : Fault) (text : Text) :
    Except Fault (Char × Text) :=
  let digits := text.takeWhile isDigit
  match text.drop digits.length with
  | '\x7d' :: rest =>
    if digits = [] then .error .noDigits
    else if 255 < valueOf base digits then .error .codeTooLarge
    else .ok (Char.ofNat (valueOf base digits), rest)
  | after => if digits = [] ∧ after = [] then .error .noDigits
    else if 255 < valueOf base digits then .error .codeTooLarge else .error other

def octalCode (text : Text) : Except Fault (Char × Text) :=
  let digits := (text.take 3).takeWhile isOctalDigit
  if 255 < valueOf 8 digits then .error .octalTooLarge
  else .ok (Char.ofNat (valueOf 8 digits), text.drop digits.length)

def escapedChar? (text : Text) : Option (Except Fault (Char × Text)) :=
  match text with
  | 'a' :: rest => some (.ok ('\x07', rest))
  | 'e' :: rest => some (.ok ('\x1b', rest))
  | 'f' :: rest => some (.ok ('\x0c', rest))
  | 'n' :: rest => some (.ok ('\n', rest))
  | 'r' :: rest => some (.ok ('\r', rest))
  | 't' :: rest => some (.ok ('\t', rest))
  | '0' :: _ => some (octalCode text)
  | 'o' :: '\x7b' :: rest => some (bracedCode 8 isOctalDigit .octalDigit rest)
  | 'o' :: _ => some (.error .octalBrace)
  | 'x' :: '\x7b' :: rest => some (bracedCode 16 isHexDigit .hexDigit rest)
  | 'x' :: rest =>
    let digits := (rest.take 2).takeWhile isHexDigit
    some (.ok (Char.ofNat (valueOf 16 digits), rest.drop digits.length))
  | ['c'] => some (.error .endsWithControl)
  | 'c' :: c :: rest =>
    if c < ' ' || '~' < c then some (.error .controlChar)
    else some (.ok (Char.ofNat (c.toUpper.toNat ^^^ 64), rest))
  | c :: rest =>
    if ['F', 'l', 'L', 'u', 'U'].elem c then some (.error .caseEscape)
    else if c.isAlphanum then none
    else some (.ok (c, rest))
  | [] => some (.error .endsWithBackslash)

def property (negated : Bool) (text : Text) : Except Fault (CharSet × Text) :=
  let finish (negated : Bool) (name rest : Text) : Except Fault (CharSet × Text) :=
    let name := name.filter fun c => c != ' ' && c != '-' && c != '_'
    let find (name : String) := Regex.Property.find (.property name.toList)
    let found : Option CharSet :=
      if name = "Any".toList then some fun _ => true
      else if name = "L&".toList then
        match find "Lu", find "Ll" with
        | .ok upper, .ok lower => some (CharSet.union upper lower)
        | _, _ => none
      else if name = "Xan".toList then
        match find "L", find "N" with
        | .ok letters, .ok numbers => some (CharSet.union letters numbers)
        | _, _ => none
      else if name = "Xwd".toList then
        match find "L", find "N" with
        | .ok letters, .ok numbers => some fun c => letters c || numbers c || c == '_'
        | _, _ => none
      else if name = "Xsp".toList ∨ name = "Xps".toList then
        some fun c => CharSet.asciiBlank c || c == '\x85' || c == '\xa0'
      else
        match Regex.Property.find (.property name) with
        | .ok set => some set
        | .error _ => none
    match found with
    | some set => .ok (if negated then set.compl else set, rest)
    | none => .error .unknownProperty
  match text with
  | '\x7b' :: rest =>
    let inner := rest.takeWhile (· ≠ '\x7d')
    match rest.drop inner.length with
    | _ :: after =>
      match inner with
      | '^' :: name => finish (!negated) name after
      | name => finish negated name after
    | [] => .error .badProperty
  | c :: rest => if c.isAlpha then finish negated [c] rest else .error .badProperty
  | [] => .error .badProperty

def namedSet? (name : Text) : Option CharSet :=
  CharSet.named? name

inductive ClassItem
  | char (c : Char)
  | set (set : CharSet)

def delimited? (sign : Char) : Text → Option (Text × Text)
  | c :: d :: rest =>
    if c = sign ∧ d = ']' then some ([], rest)
    else if c = ']' ∨ c = '\\' then none
    else if c = '[' ∧ (d = ':' ∨ d = '.' ∨ d = '=') then none
    else (delimited? sign (d :: rest)).map fun (name, after) => (c :: name, after)
  | _ => none

def namedItem (name : Text) : Except Fault ClassItem :=
  let (negated, name) :=
    match name with
    | '^' :: name => (true, name)
    | _ => (false, name)
  match namedSet? name with
  | some set => .ok (.set (if negated then set.compl else set))
  | none => .error .unknownClass

def escapedItem (text : Text) : Except Fault (ClassItem × Text) :=
  match escapedChar? text with
  | some (.ok (c, rest)) => .ok (.char c, rest)
  | some (.error fault) => .error fault
  | none =>
    match text with
    | 'b' :: rest => .ok (.char '\x08', rest)
    | 'g' :: rest => .ok (.char 'g', rest)
    | 'N' :: rest => if rest.head? = some '\x7b' then .error .caseEscape else .error .lineInClass
    | 'p' :: rest => (property false rest).map fun (set, after) => (.set set, after)
    | 'P' :: rest => (property true rest).map fun (set, after) => (.set set, after)
    | c :: rest =>
      if c.isDigit then
        if isOctalDigit c then (octalCode text).map fun (c, after) => (.char c, after)
        else .ok (.char c, rest)
      else
        match letterSet? c with
        | some set => .ok (.set set, rest)
        | none =>
          if ['B', 'R', 'X'].elem c then .error .classEscape
          else if ['A', 'C', 'G', 'K', 'Z', 'k', 'z'].elem c then .error .classEscape
          else .error .unknownEscape
    | [] => .error .endsWithBackslash

def classItem (text : Text) : Except Fault (ClassItem × Text) :=
  match text with
  | [] => .error .openClass
  | '\\' :: rest => escapedItem rest
  | '[' :: sign :: rest =>
    if sign = ':' ∨ sign = '.' ∨ sign = '=' then
      match delimited? sign rest with
      | some (name, after) =>
        if sign = ':' then (namedItem name).map fun item => (item, after) else .error .collation
      | none => .ok (.char '[', sign :: rest)
    else .ok (.char '[', sign :: rest)
  | c :: rest => .ok (.char c, rest)

def skipInClass (settings : Settings) : Text → Text
  | '\\' :: 'E' :: rest => skipInClass settings rest
  | c :: rest =>
    if settings.extendedMore && (c == ' ' || c == '\t') then skipInClass settings rest
    else c :: rest
  | [] => []

/-- Members of a class up to its end. A closing bracket in the first place is a member. -/
def classItems (settings : Settings) :
    Nat → (first quoted : Bool) → Text → Except Fault (CharSet × Text)
  | 0, _, _, _ => .error .openClass
  | _, _, true, [] => .error .openClass
  | fuel + 1, first, true, text =>
    match text with
    | '\\' :: 'E' :: rest => classItems settings fuel first false rest
    | c :: rest => do
      let (more, left) ← classItems settings fuel false true rest
      .ok (CharSet.union (fold settings (.single c)) more, left)
    | [] => .error .openClass
  | fuel + 1, first, false, text => do
    let text := skipInClass settings text
    match text with
    | '\\' :: 'Q' :: rest => classItems settings fuel first true rest
    | _ =>
      if text.head? = some ']' ∧ ¬first then .ok (.none, text.tail)
      else
        let (item, after) ← classItem text
        let after := skipInClass settings after
        let alone (set : CharSet) (after : Text) : Except Fault (CharSet × Text) := do
          let (more, left) ← classItems settings fuel false false after
          .ok (CharSet.union set more, left)
        match item, after with
        | .char c, '-' :: tail =>
          let tail := skipInClass settings tail
          if tail.head? = some ']' then alone (fold settings (.single c)) after
          else
            match ← classItem tail with
            | (.set _, _) => .error .classRange
            | (.char d, rest) =>
              if d < c then .error .classOrder
              else alone (fold settings (.range c d)) rest
        | .char c, _ => alone (fold settings (.single c)) after
        | .set set, '-' :: tail =>
          if tail.head? = some ']' then alone set after
          else
            match tail with
            | [] => .error .openClass
            | _ => .error .classRange
        | .set set, _ => alone set after

def readClass (settings : Settings) (text : Text) : Except Fault (CharSet × Text) :=
  match text with
  | '^' :: rest =>
    (classItems settings (2 * rest.length + 2) true false rest).map fun (set, left) =>
      (set.compl, left)
  | _ => classItems settings (2 * text.length + 2) true false text

def bareClass? (text : Text) : Option Fault :=
  match text with
  | sign :: rest =>
    if sign = ':' ∨ sign = '.' ∨ sign = '=' then
      match delimited? sign rest with
      | some _ => some (if sign = ':' then .bareClass else .collation)
      | none => none
    else none
  | [] => none

end WorkerLint.Tool.Perl
