import WorkerLint.Regex.Bracket
import WorkerLint.Regex.Size

/-! Reading a regular expression from its pattern. -/

namespace WorkerLint.Regex

/-- A part of a branch. One that is no expression is a setting of flags. -/
structure Item where
  regex : Option Regex
  nest : Nest

/-- What stands between two parentheses, or in the open, as far as it is read: where it begins,
where its present branch begins, the items of that branch and the branches before it, both with the
last one first. -/
structure Level where
  start : Nat
  branchStart : Nat
  items : List Item
  branches : List (Regex × Nest)

namespace Level

def fresh (start : Nat) : Level :=
  ⟨start, start, [], []⟩

def push (level : Level) (item : Item) : Level :=
  { level with items := item :: level.items }

def branch (level : Level) (stop : Nat) : Regex × Nest :=
  let items := level.items.reverse
  let regex :=
    match items.filterMap (·.regex) with
    | [] => .empty
    | first :: rest => rest.foldl .seq first
  (regex, .row ⟨level.branchStart, stop⟩ (items.map (·.nest)))

def bar (level : Level) (place : Nat) : Level :=
  { level with
    branchStart := place + 1
    items := []
    branches := level.branch place :: level.branches }

def choice (level : Level) (stop : Nat) : Regex × Nest :=
  let last := level.branch stop
  let nests := (last :: level.branches).reverse.map (·.2)
  (level.branches.foldl (fun later earlier => .alt earlier.1 later) last.1,
    .row ⟨level.start, stop⟩ nests)

end Level

/-- A group that is open: where it opened, whether its match is kept, the flags to return to, and
what its surroundings held before it. -/
structure Group where
  span : Span
  kept : Bool
  flags : Flags
  outer : Level

structure Draft where
  flags : Flags
  level : Level
  groups : List Group
  names : List (Text × Span)
  trouble : Option Fault

namespace Draft

def initial : Draft :=
  ⟨.initial, .fresh 0, [], [], none⟩

def push (draft : Draft) (regex : Regex) (nest : Nest) : Draft :=
  { draft with level := draft.level.push ⟨some regex, nest⟩ }

def add (draft : Draft) (span : Span) : Except Problem Regex → Draft
  | .ok regex => draft.push regex (.leaf span)
  | .error problem =>
    { draft.push .empty (.leaf span) with
      trouble := draft.trouble <|> some ⟨problem, span, none⟩ }

end Draft

inductive Flag
  | ignoreCase
  | multiLine
  | dotAll
  | swapGreed
  | unicode
  | crlf
  | verbose
  deriving DecidableEq, Repr

def Flag.ofChar? : Char → Option Flag
  | 'i' => some .ignoreCase
  | 'm' => some .multiLine
  | 's' => some .dotAll
  | 'U' => some .swapGreed
  | 'u' => some .unicode
  | 'R' => some .crlf
  | 'x' => some .verbose
  | _ => none

/-- Which of several matches is preferred makes no difference to whether there is one. -/
def Flags.put (flags : Flags) (value : Bool) : Flag → Flags
  | .ignoreCase => { flags with ignoreCase := value }
  | .multiLine => { flags with multiLine := value }
  | .dotAll => { flags with dotAll := value }
  | .swapGreed => flags
  | .unicode => { flags with unicode := value }
  | .crlf => { flags with crlf := value }
  | .verbose => { flags with verbose := value }

abbrev FlagItem := Option Flag × Nat

def applyFlags (flags : Flags) (items : List FlagItem) : Flags :=
  (items.foldl
    (fun (state : Flags × Bool) item =>
      match item.1 with
      | none => (state.1, false)
      | some flag => (state.1.put state.2 flag, state.2))
    (flags, true)).1

def readFlags : Nat → List FlagItem → Cursor → Except Fault ((List FlagItem) × Cursor)
  | 0, items, cursor => .ok (items, cursor)
  | fuel + 1, items, cursor =>
    match cursor.head? with
    | none => .error (.over .flagUnfinished cursor.number cursor.number)
    | some c =>
      if c = ':' ∨ c = ')' then
        match items.getLast? with
        | some (none, number) => .error (.over .flagDangling number (number + 1))
        | _ => .ok (items, cursor)
      else
        let span : Span := ⟨cursor.number, cursor.number + 1⟩
        let read : Except Fault (Option Flag) :=
          if c = '-' then .ok none
          else
            match Flag.ofChar? c with
            | some flag => .ok (some flag)
            | none => .error ⟨.flagUnknown, span, none⟩
        match read with
        | .error fault => .error fault
        | .ok flag =>
          match items.find? (·.1 = flag) with
          | some (_, number) =>
            let problem := if flag.isNone then Problem.negationRepeated else .flagRepeated
            .error ⟨problem, span, some ⟨number, number + 1⟩⟩
          | none => readFlags fuel (items ++ [(flag, cursor.number)]) cursor.bump

def isNameStart (c : Char) : Bool :=
  c == '_' || Property.alphabetic c

def isNameChar (c : Char) : Bool :=
  c ∈ ['_', '.', '[', ']'] || Property.alphabetic c || isNumber c

def readName (cursor : Cursor) : Except Fault ((Text × Span) × Cursor) :=
  let start := cursor.number
  let (name, left) :=
    match cursor.rest with
    | c :: _ =>
      if isNameStart c then
        let (more, left) := cursor.bump.collect false isNameChar
        (c :: more, left)
      else ([], cursor)
    | [] => ([], cursor)
  match left.head? with
  | none => .error (.over .nameUnclosed left.number left.number)
  | some c =>
    if c ≠ '>' then .error (.over .nameCharacter left.number (left.number + 1))
    else if name = [] then .error (.over .nameEmpty start start)
    else .ok ((name, ⟨start, left.number⟩), left.bump)

namespace Draft

def openWith (draft : Draft) (start inside : Nat) (kept : Bool) (flags : Flags) : Draft :=
  { draft with
    flags := flags
    level := .fresh inside
    groups := ⟨⟨start, start + 1⟩, kept, draft.flags, draft.level⟩ :: draft.groups }

def named (draft : Draft) (name : Text) (span : Span) : Except Fault Draft :=
  match draft.names.find? (·.1 = name) with
  | some (_, earlier) => .error ⟨.nameRepeated, span, some earlier⟩
  | none => .ok { draft with names := draft.names ++ [(name, span)] }

end Draft

def lookArounds : List Text :=
  ["?=".toList, "?!".toList, "?<=".toList, "?<!".toList]

def openFlagged (draft : Draft) (start : Nat) (mark : Cursor) : Except Fault (Draft × Cursor) := do
  let first := mark.bump
  if first.atEnd then throw (.over .groupUnclosed start (start + 1))
  let (items, left) ← readFlags (first.rest.length + 1) [] first
  let flags := applyFlags draft.flags items
  if left.head? == some ')' then
    if items.isEmpty then throw (.over .nothingToRepeat mark.number mark.number)
    let setting : Item := ⟨none, .leaf ⟨start, left.bump.number⟩⟩
    return ({ draft with flags := flags, level := draft.level.push setting }, left.bump)
  else return (draft.openWith start left.bump.number false flags, left.bump)

def openNamed (draft : Draft) (start : Nat) (cursor : Cursor) : Except Fault (Draft × Cursor) := do
  let ((name, span), left) ← readName cursor
  let draft ← draft.named name span
  return (draft.openWith start left.number true draft.flags, left)

def openGroup (draft : Draft) (cursor : Cursor) : Except Fault (Draft × Cursor) :=
  let start := cursor.number
  let inner := cursor.step draft.flags.verbose
  match lookArounds.find? (·.isPrefixOf inner.rest) with
  | some around => .error (.over .lookAround start (inner.number + around.length))
  | none =>
    let name? := (Text.after? "?P<".toList inner.rest).map ((3, ·)) <|>
      (Text.after? "?<".toList inner.rest).map ((2, ·))
    match name? with
    | some (width, rest) => openNamed draft start ⟨rest, inner.number + width⟩
    | none =>
      if inner.head? = some '?' then openFlagged draft start inner
      else .ok (draft.openWith start inner.number true draft.flags, inner)

def closeGroup (draft : Draft) (cursor : Cursor) : Except Fault (Draft × Cursor) :=
  match draft.groups with
  | [] => .error (.over .groupUnopened cursor.number (cursor.number + 1))
  | opened :: outer =>
    let (inside, nest) := draft.level.choice cursor.number
    let whole : Span := ⟨opened.span.start, cursor.number + 1⟩
    let item : Item := ⟨some (.group opened.kept inside), .node whole [nest]⟩
    .ok
      ({ draft with flags := opened.flags, level := opened.outer.push item, groups := outer },
        cursor.bump)

def readDecimal (verbose : Bool) (cursor : Cursor) : Except Fault Nat × Cursor :=
  let blank := cursor.rest.takeWhile isBlank
  let first : Cursor := ⟨cursor.rest.drop blank.length, cursor.number + blank.length⟩
  let (digits, left) := first.collect verbose (·.isDigit)
  let (_, after) := left.collect verbose isBlank
  let value := Text.digitsValue digits
  if digits = [] then (.error (.over .countEmpty first.number left.number), after)
  else if value < 4294967296 then (.ok value, after)
  else (.error (.over .decimalTooLarge first.number left.number), after)

namespace Draft

def repeated (draft : Draft) (start stop : Nat) (least : Nat) (most : Option Nat) :
    Except Fault Draft :=
  match draft.level.items with
  | ⟨some body, nest⟩ :: rest =>
    let item : Item := ⟨some (.times body least most), .node ⟨nest.span.start, stop⟩ [nest]⟩
    .ok { draft with level := { draft.level with items := item :: rest } }
  | _ => .error (.over .nothingToRepeat start start)

def isRepeatable (draft : Draft) : Bool :=
  match draft.level.items with
  | ⟨some _, _⟩ :: _ => true
  | _ => false

end Draft

def passPreference (cursor : Cursor) : Cursor :=
  if cursor.head? = some '?' then cursor.bump else cursor

def repeatMarked (draft : Draft) (cursor : Cursor) (least : Nat) (most : Option Nat) :
    Except Fault (Draft × Cursor) := do
  let after := passPreference cursor.bump
  let draft ← draft.repeated cursor.number after.number least most
  return (draft, after)

def readCounts (verbose : Bool) (brace : Cursor) : Except Fault ((Nat × Option Nat) × Cursor) := do
  let unclosed := fun left : Cursor => Fault.over .countUnclosed brace.number left.number
  let inner := brace.step verbose
  if inner.atEnd then throw (unclosed inner)
  let (least, left) := readDecimal verbose inner
  match left.head? with
  | none => throw (unclosed left)
  | some ',' =>
    let after := left.step verbose
    if after.atEnd then throw (unclosed after)
    if after.head? == some '\x7d' then
      let least ← least
      return ((least, none), after)
    else
      let least ← least
      let (most, left) := readDecimal verbose after
      let most ← most
      return ((least, some most), left)
  | some _ =>
    let least ← least
    return ((least, some least), left)

def repeatCounted (draft : Draft) (cursor : Cursor) : Except Fault (Draft × Cursor) := do
  let verbose := draft.flags.verbose
  if !draft.isRepeatable then throw (.over .nothingToRepeat cursor.number cursor.number)
  let ((least, most), left) ← readCounts verbose cursor
  if left.head? != some '\x7d' then throw (.over .countUnclosed cursor.number left.number)
  let after := passPreference (left.step verbose)
  if most.any (· < least) then throw (.over .countOrder cursor.number after.number)
  let draft ← draft.repeated cursor.number after.number least most
  return (draft, after)

def readBracket (draft : Draft) (cursor : Cursor) : Except Fault (Draft × Cursor) := do
  let (reading, left) ← Bracket.read draft.flags cursor
  let draft := draft.push (.chars reading.set) reading.nest
  return ({ draft with trouble := draft.trouble <|> reading.trouble }, left)

def readToken (draft : Draft) (cursor : Cursor) : Except Fault (Draft × Cursor) := do
  let (token, left) ← Token.inPattern draft.flags.verbose cursor
  return (draft.add token.span (meaning draft.flags token.primitive), left)

def readPart (draft : Draft) (c : Char) (cursor : Cursor) : Except Fault (Draft × Cursor) :=
  match c with
  | '(' => openGroup draft cursor
  | ')' => closeGroup draft cursor
  | '|' => .ok ({ draft with level := draft.level.bar cursor.number }, cursor.bump)
  | '[' => readBracket draft cursor
  | '?' => repeatMarked draft cursor 0 (some 1)
  | '*' => repeatMarked draft cursor 0 none
  | '+' => repeatMarked draft cursor 1 none
  | '\x7b' => repeatCounted draft cursor
  | _ => readToken draft cursor

def readParts : Nat → Draft → Cursor → Except Fault Draft
  | 0, draft, _ => .ok draft
  | fuel + 1, draft, cursor =>
    let cursor := cursor.skip draft.flags.verbose
    match cursor.head? with
    | none => .ok draft
    | some c =>
      match readPart draft c cursor with
      | .error fault => .error fault
      | .ok (draft, left) => readParts fuel draft left

/-- The expression that a pattern spells. What is spelled wrongly counts before what lies too deep,
and that before what has no meaning. -/
def parse (pattern : Text) : Except Fault Regex := do
  let draft ← readParts (pattern.length + 1) .initial ⟨pattern, 0⟩
  match draft.groups with
  | opened :: _ => throw ⟨.groupUnclosed, opened.span, none⟩
  | [] =>
    let (regex, nest) := draft.level.choice pattern.length
    match nest.fault? <|> draft.trouble with
    | some fault => throw fault
    | none => return regex

def compile (pattern : Text) : Except Text Regex :=
  match parse pattern with
  | .error fault => .error (fault.report pattern)
  | .ok regex =>
    if regex.fits then .ok regex
    else .error "Compiled regex exceeds size limit of 10485760 bytes.".toList

end WorkerLint.Regex
