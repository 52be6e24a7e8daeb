import WorkerLint.Tool.Grep.Color
import WorkerLint.Tool.Grep.Query

namespace WorkerLint.Tool.Grep

structure Line where
  text : Text
  number : Nat
  offset : Nat
  deriving DecidableEq, Repr

namespace Line

def numberFrom (number offset : Nat) : List Text → List Line
  | [] => []
  | text :: rest =>
    ⟨text, number, offset⟩ :: numberFrom (number + 1) (offset + text.length + 1) rest

def all (lineEnd : Char) (text : Text) : List Line :=
  let pieces := Text.pieces lineEnd text
  numberFrom 1 0 (if pieces.getLast? = some [] then pieces.dropLast else pieces)

def finish (line : Line) : Nat :=
  line.offset + line.text.length + 1

end Line

/-- The sign after a name or a number: it tells selected lines from those around them. -/
inductive Role
  | selected
  | context
  deriving DecidableEq, Repr

def Role.sign : Role → Text
  | .selected => [':']
  | .context => ['-']

structure Style where
  settings : Settings
  finder : Finder
  palette : Palette
  name : Option Text
  width : Nat

namespace Style

def lineEnd (style : Style) : Char :=
  if style.settings.nulEndsLines then '\x00' else '\n'

def sign (style : Style) (role : Role) : Text :=
  style.palette.paint style.palette.separator role.sign

def nameHead (style : Style) (role : Role) : Text :=
  match style.name with
  | some name =>
    style.palette.paint style.palette.fileName name ++
      (if style.settings.nulAfterName then ['\x00'] else style.sign role)
  | none => []

def number (style : Style) (color : Text) (value : Nat) : Text :=
  let digits := Text.ofNat value
  style.palette.paint color (List.replicate (style.width - digits.length) ' ' ++ digits)

def head (style : Style) (role : Role) (line offset size : Nat) : Text :=
  let settings := style.settings
  let palette := style.palette
  let isAligned := settings.alignTabs && size ≠ 0 &&
    (style.name.isSome || settings.showLine || settings.showOffset)
  style.nameHead role ++
    (if settings.showLine then style.number palette.lineNumber line ++ style.sign role else []) ++
    (if settings.showOffset then style.number palette.byteOffset offset ++ style.sign role
      else []) ++
    (if isAligned then ['\t'] else [])

def spansFrom (finder : Finder) (text : Text) : Nat → Nat → List (Nat × Nat)
  | 0, _ => []
  | fuel + 1, start =>
    if text.length < start then []
    else
      match finder.find? text start with
      | none => []
      | some (place, 0) => spansFrom finder text fuel (place + 1)
      | some (place, size) => (place, size) :: spansFrom finder text fuel (place + size)

def spans (finder : Finder) (text : Text) : List (Nat × Nat) :=
  spansFrom finder text (text.length + 2) 0

def matchLines (style : Style) (color : Text) (line : Line) : Text :=
  let role := if style.settings.invert then Role.context else .selected
  (spans style.finder line.text).flatMap fun (place, size) =>
    style.head role line.number (line.offset + place) size ++
      style.palette.paint color ((line.text.drop place).take size) ++ [style.lineEnd]

def paintFrom (style : Style) (lineColor color text : Text) :
    Nat → List (Nat × Nat) → Text × Text
  | place, [] => ([], text.drop place)
  | place, (start, size) :: rest =>
    let (more, left) := style.paintFrom lineColor color text (start + size) rest
    (style.palette.opening lineColor ++ (text.drop place).take (start - place) ++
      style.palette.paint color ((text.drop start).take size) ++ more, left)

def tail (style : Style) (lineColor text : Text) : Text :=
  let (body, ending) : Text × Text :=
    if text.getLast? = some '\r' then (text.dropLast, ['\r']) else (text, [])
  if lineColor = [] ∨ body = [] then text else style.palette.paint lineColor body ++ ending

def line (style : Style) (role : Role) (line : Line) : Text :=
  let settings := style.settings
  let palette := style.palette
  let hasMatches := (role = .selected) ≠ settings.invert
  let isSelected := (role = .selected) ≠ (settings.invert && palette.reverses)
  let color := if role = .selected then palette.selectedMatch else palette.contextMatch
  let lineColor :=
    if !palette.isOn then []
    else if isSelected then palette.selectedLine
    else palette.contextLine
  if settings.onlyMatching then if hasMatches then style.matchLines color line else []
  else
    let found := if hasMatches && palette.isOn && color ≠ [] then spans style.finder line.text
      else []
    let (painted, left) := style.paintFrom lineColor color line.text 0 found
    style.head role line.number line.offset line.text.length ++ painted ++
      style.tail lineColor left ++ [style.lineEnd]

def gap (style : Style) : Text :=
  match style.settings.separator with
  | some text => style.palette.paint style.palette.separator text ++ ['\n']
  | none => []

end Style

structure Progress where
  shown : List Text
  recent : List Line
  last : Option Nat
  /-- So many lines are still shown after the last that was selected. -/
  pending : Nat
  left : Option Nat
  count : Nat
  reached : Nat
  used : Bool
  deriving DecidableEq, Repr

structure Plan where
  style : Style
  isQuiet : Bool
  stopsAtFirst : Bool
  before : Option Nat
  after : Option Nat

namespace Plan

def select (plan : Plan) (progress : Progress) (line : Line) : Progress :=
  let progress :=
    if plan.isQuiet then progress
    else
      let lead := (progress.recent.take (plan.before.getD 0)).reverse
      let first := ((lead.head?.map (·.number)).getD line.number)
      let hasGap := (plan.before.isSome || plan.after.isSome) && progress.used &&
        progress.last != some (first - 1)
      let shown := (if hasGap then plan.style.gap else []) ++
        lead.flatMap (plan.style.line .context) ++ plan.style.line .selected line
      { progress with shown := shown :: progress.shown, last := some line.number, recent := [] }
  { progress with
    pending := if plan.isQuiet then 0 else plan.after.getD 0
    left := progress.left.map (· - 1)
    count := progress.count + 1
    reached := line.finish
    used := true }

def pass (plan : Plan) (progress : Progress) (line : Line) : Progress :=
  if 0 < progress.pending then
    { progress with
      shown := plan.style.line .context line :: progress.shown
      last := some line.number
      pending := progress.pending - 1 }
  else { progress with recent := line :: progress.recent }

def isSelected (plan : Plan) (line : Line) : Bool :=
  plan.style.finder.matchesIn line.text != plan.style.settings.invert

def search (plan : Plan) : Progress → List Line → Progress
  | progress, [] => progress
  | progress, line :: rest =>
    if progress.left = some 0 then
      if 0 < progress.pending then plan.search (plan.pass progress line) rest else progress
    else if plan.isSelected line then
      let next := plan.select progress line
      if plan.stopsAtFirst then next else plan.search next rest
    else plan.search (plan.pass progress line) rest

end Plan

end WorkerLint.Tool.Grep
