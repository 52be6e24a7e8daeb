import WorkerLint.Machine.Program
import WorkerLint.Print.Quoting
import WorkerLint.Tool.Options

namespace WorkerLint.Tool.Cat

def table : OptionTable where
  plain := "AbeEnstTuv".toList
  valued := []
  long := [⟨"number-nonblank", 'b', .none⟩, ⟨"number", 'n', .none⟩, ⟨"squeeze-blank", 's', .none⟩,
    ⟨"show-nonprinting", 'v', .none⟩, ⟨"show-ends", 'E', .none⟩, ⟨"show-tabs", 'T', .none⟩,
    ⟨"show-all", 'A', .none⟩]

structure Style where
  numbers : Bool
  fullNumbers : Bool
  squeeze : Bool
  ends : Bool
  tabs : Bool
  visible : Bool
  deriving DecidableEq, Repr

def Style.ofArguments (arguments : Arguments) : Style where
  numbers := arguments.has 'n' || arguments.has 'b'
  fullNumbers := arguments.has 'b'
  squeeze := arguments.has 's'
  ends := arguments.has 'A' || arguments.has 'e' || arguments.has 'E'
  tabs := arguments.has 'A' || arguments.has 't' || arguments.has 'T'
  visible := arguments.has 'A' || arguments.has 'e' || arguments.has 't' || arguments.has 'v'

structure Position where
  count : Nat
  inLine : Bool
  afterBlank : Bool
  owesReturn : Bool
  deriving DecidableEq, Repr

def Position.start : Position :=
  ⟨0, false, false, false⟩

def caret (n : Nat) : Text :=
  if n < 32 then ['^', Char.ofNat (n + 64)]
  else if n = 127 then "^?".toList
  else [Char.ofNat n]

def lineNumber (number : Nat) : Text :=
  let digits := Text.ofNat number
  List.replicate (6 - digits.length) ' ' ++ digits ++ ['\t']

namespace Style

def char (style : Style) (c : Char) : Text :=
  if c = '\t' then if style.tabs then caret 9 else [c]
  else if !style.visible then [c]
  else if c.toNat < 128 then caret c.toNat
  else "M-".toList ++ caret (c.toNat - 128)

def lineEnd (style : Style) (position : Position) : Text :=
  if style.ends then
    (if position.owesReturn then "^M$\n".toList else "$\n".toList)
  else ['\n']

/-- Shows one character. A carriage return waits for the next one, as it is shown before the end of
a line. -/
def step (style : Style) (position : Position) (c : Char) : Text × Position :=
  let isBlank := !position.inLine && !position.owesReturn
  if c = '\n' then
    if isBlank && position.afterBlank && style.squeeze then ([], position)
    else
      let numbered := isBlank && style.numbers && !style.fullNumbers
      let count := if numbered then position.count + 1 else position.count
      ((if numbered then lineNumber count else []) ++ style.lineEnd position,
        ⟨count, false, isBlank, false⟩)
  else
    let numbered := isBlank && style.numbers
    let count := if numbered then position.count + 1 else position.count
    let waits := c = '\r' && style.ends && !style.visible
    ((if numbered then lineNumber count else []) ++ (if position.owesReturn then ['\r'] else []) ++
      (if waits then [] else style.char c), ⟨count, true, false, waits⟩)

def showFrom (style : Style) : Position → List Text → Text → List Text × Position
  | position, shown, [] => (shown, position)
  | position, shown, c :: rest =>
    let (text, next) := style.step position c
    style.showFrom next (text :: shown) rest

def shown (style : Style) (position : Position) (text : Text) : Text × Position :=
  let (parts, after) := style.showFrom position [] text
  (parts.reverse.flatten, after)

end Style

open Program

structure Run where
  launch : Launch
  style : Style
  position : Position
  failed : Bool
  readsInput : Bool

abbrev Copying := StateT Run (StateM Machine)

def complain (message : Text) : Copying Unit := do
  let run ← getThe Run
  set { run with failed := true }
  note run.launch.process (run.launch.name ++ ": ".toList ++ message ++ ['\n'])

def isOutput (number : Nat) : Copying Bool := do
  let run ← getThe Run
  let machine ← getThe Machine
  match machine.file? number, machine.at? run.launch.process 1 with
  | some ⟨.file place, offset, _, _, _⟩, some (_, ⟨.file other, _, _, _, _⟩) =>
    pure (place = other && offset < (machine.contentAt place).length)
  | _, _ => pure false

def copy (shownName : Text) (number : Nat) : Copying Bool := do
  if ← isOutput number then
    complain (shownName ++ ": input file is output file".toList)
    pure true
  else
    match (← getThe Machine).unread number with
    | .error denial =>
      complain (shownName ++ ": ".toList ++ denial.reason)
      pure true
    | .ok text =>
      modifyThe Machine (·.consume number text.length)
      let run ← getThe Run
      let (shown, position) := run.style.shown run.position text
      set { run with position }
      match ← write run.launch.process 1 shown with
      | .ok _ => pure true
      | .error denial =>
        complain ("write error: ".toList ++ denial.reason)
        pure false

def copyFile (name : Text) : Copying Bool := do
  let run ← getThe Run
  let shownName := Print.shellWord name
  if name = ['-'] then
    set { run with readsInput := true }
    match run.launch.process.opened? 0 with
    | some number => copy shownName number
    | none =>
      complain (shownName ++ ": ".toList ++ Denial.badDescriptor.reason)
      pure true
  else
    match (← getThe Machine).openFile run.launch.process .read name with
    | .ok (number, machine) =>
      set machine
      copy shownName number
    | .error denial =>
      complain (shownName ++ ": ".toList ++ denial.reason)
      pure true

def copyAll : List Text → Copying Unit
  | [] => do
    let run ← getThe Run
    if run.position.owesReturn then discard (write run.launch.process 1 ['\r'])
    if run.readsInput && (run.launch.process.opened? 0).isNone then
      complain ("closing standard input: ".toList ++ Denial.badDescriptor.reason)
  | name :: rest => do
    if ← copyFile name then copyAll rest

def tryHelp (launch : Launch) : Text :=
  "Try '".toList ++ launch.name ++ " --help' for more information.\n".toList

def program : Program := fun launch => do
  let arguments := table.read launch.args
  let refuse (message : Text) : StateM Machine Ending := do
    note launch.process (launch.name ++ ": ".toList ++ message)
    pure (.exited 1)
  match arguments.bad with
  | some bad => refuse (bad.message ++ tryHelp launch)
  | none =>
    if (launch.process.opened? 1).isNone then
      refuse ("standard output: ".toList ++ Denial.badDescriptor.reason ++ ['\n'])
    else
      let files := if arguments.operands = [] then [['-']] else arguments.operands
      let start : Run := ⟨launch, Style.ofArguments arguments, .start, false, false⟩
      let (_, run) ← (copyAll files).run start
      pure (.exited (if run.failed then 1 else 0))

end WorkerLint.Tool.Cat
