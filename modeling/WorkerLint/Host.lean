import WorkerLint.Engine.Process
import WorkerLint.Shell.Run

/-! A host over a disk. The command of an engine may start any program; the programs here are a
shell and a few tools, so that whole runs with such commands can be evaluated. The theory speaks of
every host and needs none of them. -/

namespace WorkerLint

namespace FileTree

def programNames : List String :=
  ["cat", "false", "grep", "printf", "sh", "true"]

def devices : List (String × Special) :=
  [("null", .null), ("zero", .zero), ("full", .full), ("tty", .terminal),
    ("stdin", .descriptor 0), ("stdout", .descriptor 1), ("stderr", .descriptor 2)]

def descriptors : FileTree :=
  .dir ((List.range 10).map fun fd => (Text.ofNat fd, .special (.descriptor fd)))

def standardRoot : FileTree :=
  let programs : FileTree :=
    .dir (programNames.map fun name => (name.toList, .special (.program name.toList)))
  let own := devices.map fun (name, kind) => (name.toList, FileTree.special kind)
  .dir [("bin".toList, .link ⟨"usr/bin".toList⟩),
    ("dev".toList, .dir (("fd".toList, descriptors) :: own)), ("root".toList, empty),
    ("tmp".toList, empty), ("usr".toList, .dir [("bin".toList, programs)])]

end FileTree

namespace Disk

def standard (here : Place) : Disk :=
  ⟨FileTree.standardRoot.put .empty here, here⟩

def standardEnvironment : List (String × String) :=
  [("HOME", "/root"), ("PATH", "/usr/local/sbin:/usr/local/bin:/usr/sbin:/usr/bin:/sbin:/bin")]

def programAt (disk : Disk) (path : Path) : Except Cause Text :=
  match disk.lookup .target path with
  | .ok (.special (.program name)) => .ok name
  | .ok _ => .error .notPermitted
  | .error cause => .error cause

def programIn (disk : Disk) (name : Bytes) : List Text → Cause → Except Cause Text
  | [], cause => .error cause
  | dir :: rest, cause =>
    match disk.programAt (Path.join ⟨dir⟩ name) with
    | .ok found => .ok found
    | .error .noEntry => disk.programIn name rest cause
    | .error .notDirectory => disk.programIn name rest cause
    | .error .notPermitted => disk.programIn name rest .notPermitted
    | .error cause => .error cause

def programCalled (disk : Disk) (name : Bytes) : Except Cause Text :=
  if name = [] then .error .noEntry
  else if name.elem Path.separator then disk.programAt ⟨name⟩
  else disk.programIn name (Text.pieces ':' Shell.Lookup.standardPath) .noEntry

/-- The open files that a process begins with, by its descriptors: an empty input, and a pipe for
what it prints and one for its messages. -/
def startMachine (disk : Disk) : Machine × Process :=
  let machine : Machine := ⟨disk.root, [], [], [1], [], [], 10⟩
  let (input, machine) := machine.addOpen ⟨.special .null, 0, true, false, false⟩
  let (_, output, machine) := machine.makePipe none
  let (_, errors, machine) := machine.makePipe none
  (machine, ⟨1, 0, [(0, input), (1, output), (2, errors)], disk.here, []⟩)

def captured (machine : Machine) (process : Process) (fd : Nat) : Bytes :=
  match machine.at? process fd with
  | some (_, ⟨.pipe number, _, _, _, _⟩) => Octets.toBytes (machine.pipeText number)
  | _ => []

def execute (disk : Disk) (environment : List (Text × Text)) (argv : List Bytes) :
    Except Cause (Exit × Disk) :=
  match argv with
  | [] => .error .noEntry
  | name :: args =>
    match disk.programCalled name with
    | .error cause => .error cause
    | .ok found =>
      match Shell.programs Shell.exec found with
      | none => .error .notPermitted
      | some program =>
        let (machine, process) := disk.startMachine
        let launch : Launch := ⟨process, environment, Octets.ofBytes name, args.map Octets.ofBytes⟩
        let (ending, after) := program launch machine
        .ok (⟨captured after process 1, captured after process 2, ending.status = 0⟩,
          { disk with root := after.root })

/-- The host whose processes are given some variables. A staged file is there while one of them
runs. -/
def host (scratch : Except Cause Path) (given : List (Text × Text)) : Host Disk where
  scratch := scratch
  start staged argv disk := do
    let environment := standardEnvironment.map fun (name, value) => (name.toList, value.toList)
    let given := given.map fun (name, value) => (Octets.ofText name, Octets.ofText value)
    let before :=
      match staged with
      | some (path, text) => disk.writeFile path (Utf8.encode text)
      | none => disk
    let (exit, after) ← before.execute (environment ++ given) argv
    let left :=
      match staged with
      | some (path, _) => (after.removeEntry? path).getD after
      | none => after
    pure (exit, left)

end Disk

end WorkerLint
