import WorkerLint.Machine
import WorkerLint.Machine.Signal

namespace WorkerLint

structure Launch where
  process : Process
  environment : List (Text × Text)
  name : Text
  args : List Text

abbrev Program := Launch → StateM Machine Ending

namespace Program

/-- Starts the program that a path leads to, out of those there are. Other files cannot be
started. -/
def start (programs : Text → Option Program) (path : Text) (launch : Launch) :
    StateM Machine (Except Denial Ending) := do
  let machine ← get
  match (machine.disk launch.process).lookup .target (Machine.pathOf path) with
  | .error cause => pure (.error (.ofCause cause))
  | .ok (.special (.program name)) =>
    match programs name with
    | some program => .ok <$> program launch
    | none => pure (.error .notPermitted)
  | .ok _ => pure (.error .notPermitted)

def write (process : Process) (fd : Nat) (text : Text) :
    StateM Machine (Except Denial Unit) := do
  let machine ← get
  match process.opened? fd with
  | none => pure (.error .badDescriptor)
  | some number =>
    match machine.write number text with
    | .ok after =>
      set after
      pure (.ok ())
    | .error denial => pure (.error denial)

def note (process : Process) (text : Text) : StateM Machine Unit := do
  discard (write process 2 text)

def readAll (process : Process) (fd : Nat) : StateM Machine (Except Denial Text) := do
  let machine ← get
  match process.opened? fd with
  | none => pure (.error .badDescriptor)
  | some number =>
    match machine.unread number with
    | .ok text =>
      set (machine.consume number text.length)
      pure (.ok text)
    | .error denial => pure (.error denial)

end Program

end WorkerLint
