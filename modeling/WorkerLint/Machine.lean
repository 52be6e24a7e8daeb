import WorkerLint.Disk
import WorkerLint.Machine.Denial
import WorkerLint.Text.Octets

namespace WorkerLint

inductive Target
  | file (place : Place)
  | dir (place : Place)
  | special (kind : Special)
  | pipe (number : Nat)
  deriving DecidableEq, Repr

/-- A file that was opened. All descriptors that were made from it share its offset. -/
structure OpenFile where
  target : Target
  offset : Nat
  reads : Bool
  writes : Bool
  appends : Bool
  deriving DecidableEq, Repr

inductive OpenMode
  | read
  | write
  | append
  | readWrite
  | create
  deriving DecidableEq, Repr

def OpenMode.reads : OpenMode → Bool
  | .read => true
  | .readWrite => true
  | _ => false

def OpenMode.writes : OpenMode → Bool
  | .read => false
  | _ => true

/-- What was written to a pipe and not read yet, the latest first. Nobody reads from a pipe while it
is written to, so one that goes on without end has room for a number of writes only. -/
structure Pipe where
  chunks : List Text
  room : Option Nat
  deriving DecidableEq, Repr

namespace Pipe

def text (pipe : Pipe) : Text :=
  pipe.chunks.reverse.flatten

def put? (pipe : Pipe) (text : Text) : Option Pipe :=
  match pipe.room with
  | none => some { pipe with chunks := text :: pipe.chunks }
  | some 0 => none
  | some (room + 1) => some ⟨text :: pipe.chunks, some room⟩

end Pipe

structure Machine where
  root : FileTree
  opened : List (Nat × OpenFile)
  pipes : List (Nat × Pipe)
  running : List Nat
  signals : List (Nat × Nat)
  written : List Place
  next : Nat

structure Process where
  id : Nat
  parent : Nat
  fds : List (Nat × Nat)
  here : Place
  ignored : List Nat

namespace Process

def opened? (process : Process) (fd : Nat) : Option Nat :=
  (process.fds.find? (·.1 = fd)).map (·.2)

def close (process : Process) (fd : Nat) : Process :=
  { process with fds := process.fds.filter (·.1 ≠ fd) }

def connect (process : Process) (fd file : Nat) : Process :=
  { process with fds := (fd, file) :: process.fds.filter (·.1 ≠ fd) }

end Process

namespace Machine

def disk (machine : Machine) (process : Process) : Disk :=
  ⟨machine.root, process.here⟩

def pathOf (name : Text) : Path :=
  ⟨Octets.toBytes name⟩

def fork (machine : Machine) (process : Process) : Process × Machine :=
  ({ process with id := machine.next, parent := process.id },
    { machine with next := machine.next + 1, running := machine.next :: machine.running })

def reap (machine : Machine) (id : Nat) : Machine :=
  { machine with
    running := machine.running.filter (· ≠ id)
    signals := machine.signals.filter (·.1 ≠ id) }

def file? (machine : Machine) (number : Nat) : Option OpenFile :=
  (machine.opened.find? (·.1 = number)).map (·.2)

def setFile (machine : Machine) (number : Nat) (file : OpenFile) : Machine :=
  { machine with opened := (number, file) :: machine.opened.filter (·.1 ≠ number) }

def at? (machine : Machine) (process : Process) (fd : Nat) : Option (Nat × OpenFile) := do
  let number ← process.opened? fd
  let file ← machine.file? number
  some (number, file)

def addOpen (machine : Machine) (file : OpenFile) : Nat × Machine :=
  (machine.next,
    { machine with opened := (machine.next, file) :: machine.opened, next := machine.next + 1 })

def makePipe (machine : Machine) (room : Option Nat) : Nat × Nat × Machine :=
  let number := machine.next
  let machine := { machine with
    pipes := (number, ⟨[], room⟩) :: machine.pipes
    next := number + 1 }
  let (reading, machine) := machine.addOpen ⟨.pipe number, 0, true, false, false⟩
  let (writing, machine) := machine.addOpen ⟨.pipe number, 0, false, true, false⟩
  (reading, writing, machine)

def pipe? (machine : Machine) (number : Nat) : Option Pipe :=
  (machine.pipes.find? (·.1 = number)).map (·.2)

def pipeText (machine : Machine) (number : Nat) : Text :=
  ((machine.pipe? number).map Pipe.text).getD []

def setPipe (machine : Machine) (number : Nat) (pipe : Pipe) : Machine :=
  { machine with pipes := (number, pipe) :: machine.pipes.filter (·.1 ≠ number) }

def keepInPipe (machine : Machine) (number : Nat) (text : Text) : Machine :=
  match machine.pipe? number with
  | some pipe => machine.setPipe number { pipe with chunks := [text] }
  | none => machine

def openSpecial (machine : Machine) (process : Process) (mode : OpenMode) (kind : Special) :
    Except Denial (Nat × Machine) :=
  let make (target : Target) : Except Denial (Nat × Machine) :=
    .ok (machine.addOpen ⟨target, 0, mode.reads, mode.writes, mode = .append⟩)
  match kind with
  | .terminal => .error .noDevice
  | .descriptor fd =>
    match machine.at? process fd with
    | some (_, file) => make file.target
    | none => .error .noEntry
  | kind => make (.special kind)

def contentAt (machine : Machine) (place : Place) : Bytes :=
  match machine.root.get? place with
  | some (.file content) => content
  | _ => []

def store (machine : Machine) (place : Place) (content : Bytes) : Machine :=
  { machine with
    root := machine.root.put (.file content) place
    written :=
      if machine.written.contains place then machine.written else place :: machine.written }

def openFile (machine : Machine) (process : Process) (mode : OpenMode) (name : Text) :
    Except Denial (Nat × Machine) :=
  let intent := if mode.writes then Intent.landing else .target
  match (machine.disk process).resolve intent (pathOf name) with
  | .error cause => .error (.ofCause cause)
  | .ok place =>
    let make (machine : Machine) (target : Target) : Except Denial (Nat × Machine) :=
      .ok (machine.addOpen ⟨target, 0, mode.reads, mode.writes, mode = .append⟩)
    match machine.root.get? place with
    | some (.dir _) => if mode.writes then .error .isDirectory else make machine (.dir place)
    | some (.special kind) => machine.openSpecial process mode kind
    | some (.file _) =>
      if mode = .create then .error .present
      else make (if mode = .write then machine.store place [] else machine) (.file place)
    | _ => make (machine.store place []) (.file place)

def targetOf? (machine : Machine) (process : Process) (path : Path) : Option Target :=
  match (machine.disk process).resolve .target path with
  | .error _ => none
  | .ok place =>
    match machine.root.get? place with
    | some (.dir _) => some (.dir place)
    | some (.special (.descriptor fd)) => (machine.at? process fd).map fun (_, file) => file.target
    | some (.special kind) => some (.special kind)
    | some _ => some (.file place)
    | none => none

def unread (machine : Machine) (number : Nat) : Except Denial Text :=
  match machine.file? number with
  | none => .error .badDescriptor
  | some file =>
    if !file.reads then .error .badDescriptor
    else
      match file.target with
      | .file place => .ok (Octets.ofBytes ((machine.contentAt place).drop file.offset))
      | .dir _ => .error .isDirectory
      | .special _ => .ok []
      | .pipe number => .ok (machine.pipeText number)

def consume (machine : Machine) (number count : Nat) : Machine :=
  match machine.file? number with
  | none => machine
  | some file =>
    match file.target with
    | .file _ => machine.setFile number { file with offset := file.offset + count }
    | .pipe pipe => machine.keepInPipe pipe ((machine.pipeText pipe).drop count)
    | _ => machine

def overwrite (content : Bytes) (offset : Nat) (bytes : Bytes) : Bytes :=
  content.take offset ++ List.replicate (offset - content.length) 0 ++ bytes ++
    content.drop (offset + bytes.length)

def write (machine : Machine) (number : Nat) (text : Text) : Except Denial Machine :=
  match machine.file? number with
  | none => .error .badDescriptor
  | some file =>
    if !file.writes then .error .badDescriptor
    else if text = [] then .ok machine
    else
      match file.target with
      | .file place =>
        let content := machine.contentAt place
        let offset := if file.appends then content.length else file.offset
        let written := machine.store place (overwrite content offset (Octets.toBytes text))
        .ok (written.setFile number { file with offset := offset + text.length })
      | .dir _ => .error .isDirectory
      | .special .full => .error .noSpace
      | .special _ => .ok machine
      | .pipe number =>
        match machine.pipe? number with
        | some pipe =>
          match pipe.put? text with
          | some pipe => .ok (machine.setPipe number pipe)
          | none => .error .brokenPipe
        | none => .ok machine

end Machine

end WorkerLint
