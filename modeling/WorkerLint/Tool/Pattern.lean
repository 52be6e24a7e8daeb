import WorkerLint.Regex

/-! Expressions of the program that searches lines, in their basic and their extended form. -/

namespace WorkerLint.Tool

inductive PatternForm
  | basic
  | extended
  deriving DecidableEq, Repr

inductive Pattern
  | empty
  | chars (set : CharSet)
  | look (anchor : Anchor)
  | seq (first second : Pattern)
  | alt (first second : Pattern)
  | times (body : Pattern) (least : Nat) (most : Option Nat)
  | group (number : Nat) (body : Pattern)
  | back (number : Nat)

namespace Pattern

/-- What an expression is read for. Operators with nothing before them count differently. -/
inductive Purpose
  | whether
  | location
  deriving DecidableEq, Repr

inductive Mark
  | set (chars : CharSet)
  | look (anchor : Anchor)
  | group (number : Nat)
  | close
  | bar
  | times (least : Nat) (most : Option Nat)
  | back (number : Nat)
  | none

inductive PatternFault
  | trailingBackslash
  | unmatchedBracket
  | loneBracket
  | unmatchedGroup
  | unmatchedClose
  | unmatchedCount
  | badCount
  | countTooLarge
  | badRange
  | badClass
  | badElement
  | backReference
  deriving DecidableEq, Repr

def PatternFault.message : PatternFault → Text
  | .trailingBackslash => "Trailing backslash".toList
  | .unmatchedBracket => "Unmatched [, [^, [:, [., or [=".toList
  | .loneBracket => "Invalid regular expression".toList
  | .unmatchedGroup => "Unmatched ( or \\(".toList
  | .unmatchedClose => "Unmatched ) or \\)".toList
  | .unmatchedCount => "Unmatched \\\x7b".toList
  | .badCount => "Invalid content of \\\x7b\\\x7d".toList
  | .countTooLarge => "Regular expression too big".toList
  | .badRange => "Invalid range end".toList
  | .badClass => "Invalid character class name".toList
  | .badElement => "Invalid collation character".toList
  | .backReference => "Invalid back reference".toList

/-- The words for what is only found when an expression is read to tell whether a line matches. -/
def PatternFault.lateMessage (fault : PatternFault) : Text :=
  if fault = .countTooLarge then "regular expression too big".toList
  else "invalid content of \\\x7b\\\x7d".toList

def maxCount : Nat := 32767

inductive Member
  | named (chars : CharSet)
  | char (c : Char)

def class? (name : Text) : Option CharSet :=
  if name = "ascii".toList ∨ name = "word".toList then none else CharSet.named? name

def delimited? (sign : Char) : Text → Option (Text × Text)
  | [] => none
  | c :: rest =>
    match rest with
    | d :: after =>
      if c = sign ∧ d = ']' then some ([], after)
      else (delimited? sign rest).map fun (name, after) => (c :: name, after)
    | [] => none

def member : Text → Except PatternFault (Member × Text)
  | [] => .error .unmatchedBracket
  | '[' :: sign :: rest =>
    if sign = ':' then
      match delimited? sign rest with
      | none => .error .unmatchedBracket
      | some (name, after) =>
        match class? name with
        | some found => .ok (.named found, after)
        | none => .error .badClass
    else if sign = '.' ∨ sign = '=' then
      match delimited? sign rest with
      | some ([c], after) => .ok (.char c, after)
      | some _ => .error .badElement
      | none => .error .unmatchedBracket
    else .ok (.char '[', sign :: rest)
  | c :: rest => .ok (.char c, rest)

/-- The members of a bracket up to its end. A closing bracket in the first place is a member. -/
def members : Nat → Bool → Text → Except PatternFault (CharSet × Text)
  | 0, _, _ => .error .unmatchedBracket
  | _, false, ']' :: rest => .ok (.none, rest)
  | fuel + 1, _, text => do
    let (low, after) ← member text
    match low, after with
    | .char c, '-' :: after =>
      if after.head? = some ']' then
        let (more, left) ← members fuel false ('-' :: after)
        .ok (CharSet.union (.single c) more, left)
      else
        match ← member after with
        | (.named _, _) => .error .badRange
        | (.char d, left) =>
          if d < c then .error .badRange
          else
            let (more, left) ← members fuel false left
            .ok (CharSet.union (.range c d) more, left)
    | .char c, after =>
      let (more, left) ← members fuel false after
      .ok (CharSet.union (.single c) more, left)
    | .named set, after =>
      let (more, left) ← members fuel false after
      .ok (CharSet.union set more, left)

def isBareClass (text : Text) : Bool :=
  let inner := text.takeWhile (· ≠ ']')
  inner.head? == some ':' && 1 < inner.length && inner.getLast? == some ':' &&
    inner.any (· ≠ ':') && !inner.elem '[' && !inner.dropLast.tail.elem '-'

def bracket (fold : CharSet → CharSet) (text : Text) : Except PatternFault (CharSet × Text) :=
  if text = [] then .error .loneBracket
  else
    match text with
    | '^' :: rest =>
      (members (rest.length + 1) true rest).map fun (set, left) => ((fold set).compl, left)
    | _ => (members (text.length + 1) true text).map fun (set, left) => (fold set, left)

def count? (form : PatternForm) (text : Text) : Option (Nat × Option Nat × Text) :=
  let low := text.takeWhile Char.isDigit
  let after := text.drop low.length
  let (bounds, after) : Option (Nat × Option Nat) × Text :=
    match after with
    | ',' :: rest =>
      let high := rest.takeWhile Char.isDigit
      (some (Text.digitsValue low, if high = [] then none else some (Text.digitsValue high)),
        rest.drop high.length)
    | _ =>
      (if low = [] then none else some (Text.digitsValue low, some (Text.digitsValue low)), after)
  let closing : Text := if form = .basic then "\\\x7d".toList else "\x7d".toList
  match bounds, Text.after? closing after with
  | some (least, most), some left => some (least, most, left)
  | _, _ => none

def bound? : Text → Option (Text × Text)
  | [] => none
  | ',' :: rest => some ([], ',' :: rest)
  | '\\' :: '\x7d' :: rest => some ([], '\\' :: '\x7d' :: rest)
  | c :: rest => (bound? rest).map fun (text, after) => (c :: text, after)

/-- What a count that cannot be read comes to. In extended expressions its brace is itself, unless
it is closed at once. -/
def badCount (form : PatternForm) (text : Text) : Option PatternFault :=
  if form = .extended then if text.head? = some '\x7d' then some .badCount else none
  else
    match bound? text with
    | none => some .unmatchedCount
    | some (low, ',' :: rest) =>
      if low.all Char.isDigit && (bound? rest).isNone then some .unmatchedCount
      else some .badCount
    | some _ => some .badCount

def countMark (form : PatternForm) (text : Text) :
    Except PatternFault (Option (Mark × Text)) :=
  match count? form text with
  | none =>
    match badCount form text with
    | some fault => .error fault
    | none => .ok none
  | some (least, most, left) =>
    if most.any (· < least) then .error .badCount
    else if maxCount < most.getD least then .error .countTooLarge
    else .ok (some (.times least most, left))

structure Site where
  first : Bool
  starts : Bool
  opened : List Nat
  closed : List Nat
  /-- For each level, the innermost first: the groups that could be referred to at its start, and
  those of its branches so far. -/
  levels : List (List Nat × List Nat)
  deriving DecidableEq, Repr

namespace Site

def start : Site :=
  ⟨true, true, [], [], [([], [])]⟩

def openGroup (site : Site) (number : Nat) : Site :=
  ⟨true, true, number :: site.opened, site.closed, (site.closed, []) :: site.levels⟩

def nextBranch (site : Site) : Site :=
  match site.levels with
  | (before, sofar) :: above =>
    { site with
      first := true, starts := true, closed := before
      levels := (before, site.closed ++ sofar) :: above }
  | [] => { site with first := true, starts := true }

def closeGroup (site : Site) : Site :=
  let sofar := (site.levels.head?.map (·.2)).getD []
  ⟨false, false, site.opened.tail, site.opened.take 1 ++ site.closed ++ sofar, site.levels.tail⟩

end Site

def endsBranch (rest : Text) : Bool :=
  rest.isEmpty || (Text.after? "\\)".toList rest).isSome || (Text.after? "\\|".toList rest).isSome

def wordSet : CharSet :=
  CharSet.asciiWord

def lettered? (c : Char) : Option Mark :=
  match c with
  | 'w' => some (.set wordSet)
  | 'W' => some (.set wordSet.compl)
  | 's' => some (.set CharSet.asciiBlank)
  | 'S' => some (.set CharSet.asciiBlank.compl)
  | 'b' => some (.look (.words false .boundary))
  | 'B' => some (.look (.words false .inside))
  | '<' => some (.look (.words false .start))
  | '>' => some (.look (.words false .finish))
  | '\x60' => some (.look .textStart)
  | '\'' => some (.look .textEnd)
  | _ => none

def operator? (c : Char) : Option Mark :=
  match c with
  | '+' => some (.times 1 none)
  | '?' => some (.times 0 (some 1))
  | '(' => some (.group 0)
  | ')' => some .close
  | '|' => some .bar
  | _ => none

def isTimes : Mark → Bool
  | .times _ _ => true
  | _ => false

/-- A character after a backslash. Where matches are looked for without regard to case, a small
letter is found nowhere. -/
def escapedSet (purpose : Purpose) (fold : CharSet → CharSet) (c : Char) : CharSet :=
  let folded := fold (.single c)
  if purpose = .location ∧ c.isLower ∧ folded c.toUpper then .none else folded

def mark (purpose : Purpose) (form : PatternForm) (fold : CharSet → CharSet) (site : Site) :
    Text → Except PatternFault (Mark × Text)
  | [] => .error .trailingBackslash
  | '\\' :: [] => .error .trailingBackslash
  | '\\' :: c :: rest =>
    let literal : Mark := .set (escapedSet purpose fold c)
    match lettered? c with
    | some found => .ok (found, rest)
    | none =>
      if c.isDigit ∧ c ≠ '0' then
        let number := c.toNat - '0'.toNat
        if site.closed.elem number then .ok (.back number, rest) else .error .backReference
      else if form = .extended then .ok (literal, rest)
      else if c = '\x7b' then
        if site.first then .ok (literal, rest)
        else (countMark form rest).map fun found => found.getD (literal, rest)
      else if c = ')' ∧ site.opened = [] then .error .unmatchedClose
      else
        match operator? c with
        | some found =>
          if isTimes found && site.first then .ok (literal, rest) else .ok (found, rest)
        | none => .ok (literal, rest)
  | c :: rest =>
    let literal : Mark := .set (fold (.single c))
    let isVoid := purpose = .location ∧ form = .extended ∧ site.first
    if c = '.' then .ok (.set fun _ => true, rest)
    else if c = '[' then (bracket fold rest).map fun (set, left) => (.set set, left)
    else if c = '*' then
      if form = .basic ∧ site.first then .ok (literal, rest)
      else if isVoid then .ok (.none, rest)
      else .ok (.times 0 none, rest)
    else if c = '^' then
      if form = .extended ∨ site.starts then .ok (.look .textStart, rest)
      else .ok (literal, rest)
    else if c = '$' then
      if form = .extended ∨ endsBranch rest then .ok (.look .textEnd, rest)
      else .ok (literal, rest)
    else if form = .basic then .ok (literal, rest)
    else if isVoid ∧ (c = '\x7b' ∨ c = '+' ∨ c = '?') then .ok (.none, rest)
    else if c = '\x7b' then
      match countMark form rest with
      | .ok found => .ok (found.getD (literal, rest))
      | .error .badCount =>
        if purpose = .whether then .ok (literal, rest) else .error .badCount
      | .error fault => .error fault
    else if c = ')' ∧ site.opened = [] then .ok (literal, rest)
    else .ok ((operator? c).getD literal, rest)

inductive Remark
  | warning (text : Text)
  | refusal (text : Text)
  deriving DecidableEq, Repr

namespace Remark

def text : Remark → Text
  | .warning text => text
  | .refusal text => text

def isRefusal : Remark → Bool
  | .warning _ => false
  | .refusal _ => true

end Remark

def earlyOperator (c : Char) : Remark :=
  .warning ("warning: ".toList ++ (if c = '\x7b' then "\x7b...\x7d".toList else [c]) ++
    " at start of expression".toList)

def bareClass : Remark :=
  .refusal "character class syntax is [[:space:]], not [:space:]".toList

def misplaced : Text → Bool
  | '[' :: '^' :: rest => isBareClass rest
  | '[' :: rest => isBareClass rest
  | _ => false

def marks (purpose : Purpose) (form : PatternForm) (fold : CharSet → CharSet) :
    Nat → Nat → Site → Text → Except PatternFault (List Mark × List Remark)
  | 0, _, _, _ => .ok ([], [])
  | _, _, _, [] => .ok ([], [])
  | fuel + 1, count, site, c :: rest => do
    let early : List Remark := if site.first then [earlyOperator c] else []
    match mark purpose form fold site (c :: rest) with
    | .error fault =>
      if purpose = .location then .error fault
      else .ok ([], (if c = '\x7b' then early else []) ++ [.refusal fault.lateMessage])
    | .ok (found, left) =>
      let goOn (found : Mark) (count : Nat) (next : Site) (remarks : List Remark) :
          Except PatternFault (List Mark × List Remark) := do
        let (more, later) ← marks purpose form fold fuel count next left
        .ok (found :: more, remarks ++ later)
      match found with
      | .group _ =>
        let number := count + 1
        goOn (.group number) number (site.openGroup number) []
      | .bar => goOn found count site.nextBranch []
      | .close => goOn found count site.closeGroup []
      | .look _ =>
        goOn found count
          { site with first := site.first || purpose = .location, starts := false } []
      | .none => goOn found count { site with starts := false } []
      | .times _ _ =>
        goOn found count { site with first := site.first && c != '\x7b', starts := false } early
      | _ =>
        goOn found count { site with first := false, starts := false }
          (if misplaced (c :: rest) then [bareClass] else [])

inductive Goal
  | branches
  | branch
  | pieceTimes (piece : Pattern)

def assemble : Nat → Goal → List Mark → Option (Pattern × List Mark)
  | 0, _, _ => none
  | fuel + 1, .branches, marks => do
    let (first, left) ← assemble fuel .branch marks
    match left with
    | .bar :: left =>
      let (second, left) ← assemble fuel .branches left
      some (.alt first second, left)
    | _ => some (first, left)
  | fuel + 1, .branch, marks =>
    let goOn (piece : Pattern) (left : List Mark) : Option (Pattern × List Mark) := do
      let (piece, left) ← assemble fuel (.pieceTimes piece) left
      let (more, left) ← assemble fuel .branch left
      some (.seq piece more, left)
    match marks with
    | [] => some (.empty, [])
    | .none :: left => assemble fuel .branch left
    | .bar :: _ => some (.empty, marks)
    | .close :: _ => some (.empty, marks)
    | .times _ _ :: _ => goOn .empty marks
    | .set set :: left => goOn (.chars set) left
    | .look anchor :: left => goOn (.look anchor) left
    | .back number :: left => goOn (.back number) left
    | .group number :: left => do
      let (body, left) ← assemble fuel .branches left
      match left with
      | .close :: left => goOn (.group number body) left
      | _ => none
  | fuel + 1, .pieceTimes piece, marks =>
    match marks with
    | .times least most :: left => assemble fuel (.pieceTimes (.times piece least most)) left
    | _ => some (piece, marks)

def read (purpose : Purpose) (form : PatternForm) (fold : CharSet → CharSet) (text : Text) :
    Except PatternFault (Pattern × List Remark) := do
  let (found, remarks) ← marks purpose form fold (text.length + 1) 0 Site.start text
  match assemble (4 * found.length + 4) .branches found with
  | some (pattern, []) => .ok (pattern, remarks)
  | _ =>
    if purpose = .whether ∧ remarks.any (·.isRefusal) then .ok (.empty, remarks)
    else .error .unmatchedGroup

structure Readings where
  whether : Pattern
  location : Pattern
  remarks : List Remark

def parse (form : PatternForm) (fold : CharSet → CharSet) (text : Text) :
    Except PatternFault Readings := do
  let (location, _) ← read .location form fold text
  let (whether, remarks) ← read .whether form fold text
  .ok ⟨whether, location, remarks⟩

def literal (fold : CharSet → CharSet) : Text → Pattern
  | [] => .empty
  | c :: rest => .seq (.chars (fold (.single c))) (literal fold rest)

def wholeLine (pattern : Pattern) : Pattern :=
  .seq (.look .textStart) (.seq pattern (.look .textEnd))

def wholeWord (pattern : Pattern) : Pattern :=
  .seq (.look (.words false .startHalf)) (.seq pattern (.look (.words false .finishHalf)))

def endless : Pattern → Pattern
  | .look .textEnd => .chars .none
  | .seq first second => .seq first.endless second.endless
  | .alt first second => .alt first.endless second.endless
  | .times body least most => .times body.endless least most
  | .group number body => .group number body.endless
  | pattern => pattern

def regex? : Pattern → Option Regex
  | .empty => some .empty
  | .chars set => some (.chars set)
  | .look anchor => some (.look anchor)
  | .seq first second => do some (.seq (← first.regex?) (← second.regex?))
  | .alt first second => do some (.alt (← first.regex?) (← second.regex?))
  | .times body least most => do some (.times (← body.regex?) least most)
  | .group _ body => body.regex?
  | .back _ => none

end Pattern

end WorkerLint.Tool
