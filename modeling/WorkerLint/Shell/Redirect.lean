import WorkerLint.Shell.Expand

namespace WorkerLint.Shell

inductive Opening
  | file (fd : Nat) (mode : OpenMode) (name : Text)
  | copy (fd : Nat) (source : Option Nat)
  | text (fd : Nat) (word : Word)

namespace Opening

def fd : Opening → Nat
  | .file fd _ _ => fd
  | .copy fd _ => fd
  | .text fd _ => fd

end Opening

namespace Redirect

def source (text : Text) : Act (Option Nat) :=
  match text with
  | ['-'] => pure none
  | [c] => if c.isDigit then pure (some (c.toNat - '0'.toNat)) else bad
  | _ => bad
where
  bad : Act (Option Nat) := do
    Act.failSyntax (← get).readLine "Bad fd number".toList

def expand (output : Command → Act Text) : List Redirect → Act (List Opening)
  | [] => pure []
  | redirect :: rest => do
    let first ←
      match redirect with
      | .toFile fd mode file => pure (.file fd mode (← Expand.single output .plain true file))
      | .copy fd word => pure (.copy fd (← source (← Expand.single output .plain true word)))
      | .fromText fd number =>
        pure (.text fd (((← get).texts.find? (·.1 = number)).map (·.2) |>.getD []))
    pure (first :: (← expand output rest))

def connect (fd file : Nat) : Act Unit :=
  modify fun state => { state with process := state.process.connect fd file }

def close (fd : Nat) : Act Unit :=
  modify fun state => { state with process := state.process.close fd }

def refusal (mode : OpenMode) (name : Text) (denial : Denial) : Text :=
  let missing := denial = .noEntry ∨ denial = .notDirectory
  if mode = .read then
    "cannot open ".toList ++ name ++ ": ".toList ++
      (if missing then "No such file".toList else denial.reason)
  else
    "cannot create ".toList ++ name ++ ": ".toList ++
      (if missing then "Directory nonexistent".toList else denial.reason)

/-- The mode that a redirection has in the end: files are spared only if the shell is told so, and
only regular ones. -/
def effective (state : State) (mode : OpenMode) (name : Text) : OpenMode :=
  if mode = .create then
    if state.isOn .noclobber then
      match state.disk.lookup .target (Machine.pathOf name) with
      | .ok (.special _) => .write
      | _ => .create
    else .write
  else mode

def perform (output : Command → Act Text) : Opening → Act Unit
  | .file fd mode name => do
    let state ← get
    match state.machine.openFile state.process (effective state mode name) name with
    | .ok (file, machine) =>
      set { state with machine }
      connect fd file
    | .error denial => Act.fail (refusal mode name denial)
  | .copy fd none => close fd
  | .copy fd (some source) => do
    if source ≠ fd then
      match (← get).process.opened? source with
      | some file => connect fd file
      | none =>
        Act.fail (Text.ofNat source ++ ": ".toList ++ Denial.badDescriptor.reason)
  | .text fd word => do
    let text ← Expand.single output .quoted false word
    let state ← get
    let (reading, writing, machine) := state.machine.makePipe none
    let machine :=
      match machine.write writing text with
      | .ok machine => machine
      | .error _ => machine
    set { state with machine }
    connect fd reading

def performAll (output : Command → Act Text) : List Opening → Act Unit
  | [] => pure ()
  | opening :: rest => do
    perform output opening
    performAll output rest

def before (state : State) (openings : List Opening) : List (Nat × Option Nat) :=
  openings.map fun opening => (opening.fd, state.process.opened? opening.fd)

def restore : List (Nat × Option Nat) → Act Unit
  | [] => pure ()
  | (fd, old) :: rest => do
    match old with
    | some file => connect fd file
    | none => close fd
    restore rest

end Redirect

end WorkerLint.Shell
