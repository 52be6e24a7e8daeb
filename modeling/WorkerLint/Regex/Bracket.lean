import WorkerLint.Regex.Meaning
import WorkerLint.Regex.Nest

namespace WorkerLint.Regex.Bracket

inductive Operation
  | intersection
  | difference
  | symmetricDifference
  deriving DecidableEq, Repr

structure Listing where
  set : CharSet
  start : Nat
  parts : List Nest

namespace Listing

def fresh (start : Nat) : Listing :=
  ⟨.none, start, []⟩

def add (listing : Listing) (part : Nest) (set : CharSet) : Listing :=
  { listing with set := listing.set.union set, parts := part :: listing.parts }

def nest (listing : Listing) : Nest :=
  let first := listing.parts.getLast?.elim listing.start (·.span.start)
  let last := listing.parts.head?.elim listing.start (·.span.stop)
  .row ⟨first, last⟩ listing.parts.reverse

end Listing

inductive Layer
  | opened (before : Listing) (negated : Bool) (span : Span)
  | waiting (operation : Operation) (left : CharSet) (nest : Nest)

/-- A class on its way: what the innermost bracket lists since its last operation, what is begun,
and the first part without a meaning. -/
structure State where
  listed : Listing
  layers : List Layer
  trouble : Option Fault

namespace State

def add (state : State) (part : Nest) : Except Fault CharSet → State
  | .ok set => { state with listed := state.listed.add part set }
  | .error fault =>
    { state with
      listed := state.listed.add part .none
      trouble := state.trouble <|> some fault }

def span? (state : State) : Option Span :=
  state.layers.findSome? fun
    | .opened _ _ span => some span
    | .waiting _ _ _ => none

def unclosed (state : State) (cursor : Cursor) : Fault :=
  ⟨.classUnclosed, state.span?.getD ⟨cursor.number, cursor.number⟩, none⟩

def settled (flags : Flags) (state : State) : CharSet × Nest × List Layer :=
  match state.layers with
  | .waiting operation left leftNest :: below =>
    let left := flags.fold left
    let right := flags.fold state.listed.set
    let rightNest := state.listed.nest
    let nest := Nest.node ⟨leftNest.span.start, rightNest.span.stop⟩ [leftNest, rightNest]
    match operation with
    | .intersection => (left.inter right, nest, below)
    | .difference => (left.diff right, nest, below)
    | .symmetricDifference => (left.symmDiff right, nest, below)
  | layers => (state.listed.set, state.listed.nest, layers)

def operate (flags : Flags) (state : State) (operation : Operation) (start : Nat) : State :=
  let (left, nest, below) := state.settled flags
  { state with listed := .fresh start, layers := .waiting operation left nest :: below }

end State

/-- A complement beyond ASCII would split characters into bytes. -/
def closedSet (flags : Flags) (negated : Bool) (set : CharSet) : Except Problem CharSet :=
  if negated && !flags.unicode then .error .beyondAscii
  else .ok (negate negated (flags.fold set))

def dashes (verbose : Bool) (start : Nat) : Nat → Cursor → Except Fault (List Nat × Cursor)
  | 0, cursor => .ok ([], cursor)
  | fuel + 1, cursor =>
    if cursor.head? ≠ some '-' then .ok ([], cursor)
    else
      let next := cursor.step verbose
      if next.atEnd then .error (.over .classUnclosed start start)
      else (dashes verbose start fuel next).map fun (more, left) => (cursor.number :: more, left)

def repeatedly (start : Nat) (c : Char) (places : List Nat) : Listing :=
  places.foldl (fun listing place => listing.add (.leaf ⟨place, place + 1⟩) (.single c))
    (.fresh start)

/-- The opening of a bracket: a caret negates it, and hyphens, or a closing bracket, that come
first are listed. -/
def openBracket (verbose : Bool) (state : State) (cursor : Cursor) :
    Except Fault (State × Cursor) := do
  let start := cursor.number
  let first := cursor.step verbose
  if first.atEnd then throw (.over .classUnclosed start first.number)
  let negated := first.head? == some '^'
  let body := if negated then first.step verbose else first
  if body.atEnd then throw (.over .classUnclosed start body.number)
  let (places, left) ← dashes verbose start body.rest.length body
  if places.isEmpty && left.head? == some ']' then
    let after := left.step verbose
    if after.atEnd then throw (.over .classUnclosed start after.number)
    let layer := Layer.opened state.listed negated ⟨start, after.number⟩
    let listed := repeatedly body.number ']' [left.number]
    return ({ state with listed := listed, layers := layer :: state.layers }, after)
  else
    let layer := Layer.opened state.listed negated ⟨start, left.number⟩
    let listed := repeatedly body.number '-' places
    return ({ state with listed := listed, layers := layer :: state.layers }, left)

def namedClass? (cursor : Cursor) : Option (CharSet × Bool × Cursor) :=
  match cursor.rest with
  | '[' :: ':' :: rest =>
    let (negated, rest) :=
      match rest with
      | '^' :: rest => (true, rest)
      | _ => (false, rest)
    let name := rest.takeWhile (· ≠ ':')
    match rest.dropWhile (· ≠ ':') with
    | ':' :: ']' :: left =>
      (CharSet.named? name).map fun set =>
        (set, negated, ⟨left, cursor.number + (cursor.rest.length - left.length)⟩)
    | _ => none
  | _ => none

def bound (flags : Flags) (token : Token) : Except Fault (Char × Option Problem) :=
  match token.primitive with
  | .literal c _ =>
    match memberSet flags token.primitive with
    | .ok _ => .ok (c, none)
    | .error problem => .ok (c, some problem)
  | _ => .error ⟨.classRangeBound, token.span, none⟩

def located (span : Span) (set : Except Problem CharSet) : Except Fault CharSet :=
  set.mapError fun problem => ⟨problem, span, none⟩

def readMember (flags : Flags) (state : State) (cursor : Cursor) :
    Except Fault (State × Cursor) := do
  let verbose := flags.verbose
  let (token, left) ← Token.inClass verbose cursor
  let left := left.skip verbose
  if left.atEnd then throw (state.unclosed left)
  let next := left.peek verbose
  if left.head? ≠ some '-' || next == some ']' || next == some '-' then
    let set := located token.span (memberSet flags token.primitive)
    match token.primitive with
    | .literal _ _ | .letter _ _ | .property _ _ => return (state.add (.leaf token.span) set, left)
    | _ => throw ⟨.classEscape, token.span, none⟩
  else
    let after := left.step verbose
    if after.atEnd then throw (state.unclosed after)
    let (last, left) ← Token.inClass verbose after
    let (low, lowProblem) ← bound flags token
    let (high, highProblem) ← bound flags last
    let span : Span := ⟨token.span.start, last.span.stop⟩
    if high < low then throw ⟨.classRangeOrder, span, none⟩
    let set : Except Fault CharSet :=
      match lowProblem, highProblem with
      | some problem, _ => .error ⟨problem, token.span, none⟩
      | none, some problem => .error ⟨problem, last.span, none⟩
      | none, none => .ok (.range low high)
    return (state.add (.leaf span) set, left)

structure Reading where
  set : CharSet
  nest : Nest
  trouble : Option Fault

inductive Progress
  | more (state : State)
  | done (reading : Reading)

def closeBracket (flags : Flags) (state : State) (cursor : Cursor) :
    Except Fault (Progress × Cursor) :=
  let (set, nest, layers) := state.settled flags
  match layers with
  | .opened before negated span :: below =>
    let whole : Span := ⟨span.start, cursor.number + 1⟩
    let part := Nest.node whole [nest]
    let closed := State.add { state with listed := before, layers := below } part
      (located whole (closedSet flags negated set))
    if below.isEmpty then .ok (.done ⟨closed.listed.set, part, closed.trouble⟩, cursor.bump)
    else .ok (.more closed, cursor.bump)
  | _ => .error (state.unclosed cursor)

def operation? (cursor : Cursor) : Option Operation :=
  match cursor.rest with
  | '&' :: '&' :: _ => some .intersection
  | '-' :: '-' :: _ => some .difference
  | '~' :: '~' :: _ => some .symmetricDifference
  | _ => none

def step (flags : Flags) (state : State) (cursor : Cursor) : Except Fault (Progress × Cursor) :=
  let cursor := cursor.skip flags.verbose
  let more := fun reading : Except Fault (State × Cursor) =>
    reading.map fun (state, left) => (Progress.more state, left)
  match cursor.head?, operation? cursor with
  | none, _ => .error (state.unclosed cursor)
  | some '[', _ =>
    match namedClass? cursor with
    | some (set, negated, left) =>
      let span : Span := ⟨cursor.number, left.number⟩
      .ok (.more (state.add (.leaf span) (located span (closedSet flags negated set))), left)
    | none => more (openBracket flags.verbose state cursor)
  | some ']', _ => closeBracket flags state cursor
  | some _, some operation =>
    let right := cursor.bump.bump
    .ok (.more (state.operate flags operation right.number), right)
  | some _, none => more (readMember flags state cursor)

def finish (flags : Flags) : Nat → State → Cursor → Except Fault (Reading × Cursor)
  | 0, state, cursor => .error (state.unclosed cursor)
  | fuel + 1, state, cursor =>
    match step flags state cursor with
    | .error fault => .error fault
    | .ok (.done reading, left) => .ok (reading, left)
    | .ok (.more state, left) => finish flags fuel state left

def read (flags : Flags) (cursor : Cursor) : Except Fault (Reading × Cursor) :=
  match openBracket flags.verbose ⟨.fresh cursor.number, [], none⟩ cursor with
  | .error fault => .error fault
  | .ok (state, left) => finish flags (left.rest.length + 1) state left

end WorkerLint.Regex.Bracket
