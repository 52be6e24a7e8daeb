import WorkerLint.Text.Octets

namespace WorkerLint.Shell

inductive Piece
  | char (c : Char) (isQuoted : Bool)
  | edge
  deriving DecidableEq, Repr

abbrev Field := List Piece

namespace Field

def ofText (isQuoted : Bool) (text : Text) : Field :=
  text.map fun c => .char c isQuoted

def text (field : Field) : Text :=
  field.filterMap fun
    | .char c _ => some c
    | .edge => none

end Field

inductive Cutting
  | never
  | atSeparators
  /-- Only between parameters, where a NUL stands. -/
  | atGaps
  deriving DecidableEq, Repr

structure Run where
  pieces : Field
  cutting : Cutting
  deriving DecidableEq, Repr

abbrev Expanded := List Run

namespace Expanded

def field (expanded : Expanded) : Field :=
  expanded.flatMap (·.pieces)

def text (expanded : Expanded) : Text :=
  expanded.field.text

end Expanded

def standardSeparators : Text := " \t\n".toList

namespace Cut

structure State where
  current : Field
  finished : List Field
  inBlank : Bool
  left : Option Nat
  /-- How many pieces of the last field stay, if its end may have to go. -/
  keep : Option Nat
  deriving DecidableEq, Repr

namespace State

def put (state : State) (piece : Piece) : State :=
  { state with current := piece :: state.current }

def finish (state : State) : State :=
  { state with current := [], finished := state.current.reverse :: state.finished }

def isFull (state : State) : Bool :=
  state.left == some 0

end State

/-- A character of the last field. Blanks at its end go, and so does one other separator if nothing
else follows it. -/
def takeLast (isSeparator isBlank : Bool) (piece : Piece) (state : State) : State :=
  let size := state.current.length
  let next := state.put piece
  if isBlank then { next with keep := some (state.keep.getD size) }
  else
    { next with
      keep := if isSeparator && state.inBlank then state.keep else none
      inBlank := false }

def takeChar (separators : Text) (gaps : Bool) (piece : Piece) (c : Char) (state : State) :
    State :=
  let isSeparator := c == '\x00' || separators.elem c
  let isBlank := isSeparator && (c == '\x00' || standardSeparators.elem c)
  if state.isFull then takeLast isSeparator isBlank piece state
  else if state.inBlank then
    -- A blank goes on, and may still be followed by one other separator.
    if isBlank then { state with current := [] }
    else if isSeparator then { state with current := [], inBlank := false }
    else { state with current := [piece], inBlank := false }
  else if isSeparator then
    let blank := isBlank && !gaps
    if blank && state.current.isEmpty then state
    else if state.left == some 1 then
      { state.put piece with
        left := some 0, keep := some state.current.length, inBlank := blank }
    else
      { state.finish with left := state.left.map (· - 1), inBlank := blank }
  else { state.put piece with inBlank := false }

def takeRun (separators : Text) (afterGaps : Bool) (run : Run) (state : State) : State :=
  match run.cutting with
  | .never => run.pieces.foldl State.put state
  | cutting =>
    let gaps := cutting = .atGaps
    let accepted := if gaps then [] else separators
    run.pieces.foldl
      (fun state piece =>
        match piece with
        | .char c _ => takeChar accepted (gaps || afterGaps) piece c state
        | .edge => state.put piece)
      { state with inBlank := false }

/-- All runs, one after another, and whether the last one that may be cut was cut at gaps. -/
def takeRuns (separators : Text) : Bool → Expanded → State → Bool × State
  | afterGaps, [], state => (afterGaps, state)
  | afterGaps, run :: rest, state =>
    let next := takeRun separators afterGaps run state
    match run.cutting with
    | .never => takeRuns separators afterGaps rest next
    | cutting => takeRuns separators (cutting = .atGaps) rest next

end Cut

def Expanded.fields (expanded : Expanded) (separators : Text) (limit : Option Nat) : List Field :=
  let (afterGaps, state) := Cut.takeRuns separators false expanded ⟨[], [], false, limit, none⟩
  let whole := state.current.reverse
  let last := if afterGaps then whole else whole.take (state.keep.getD whole.length)
  if last.isEmpty && !afterGaps then state.finished.reverse
  else (last :: state.finished).reverse

end WorkerLint.Shell
