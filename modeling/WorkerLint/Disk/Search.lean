import WorkerLint.Disk
import WorkerLint.Reader

namespace WorkerLint.Disk

def defaultDepth : Nat := 3

/-- The tree that a search starts from. A root that is a link is followed to a directory only. -/
def searchRoot? (disk : Disk) (root : Path) : Option FileTree :=
  match disk.lookup .entry root with
  | .error _ => none
  | .ok (.link _) =>
    match disk.lookup .target root with
    | .ok found => if found.isDir then some found else none
    | .error _ => none
  | .ok found => some found

def opens (root : Path) (names : List Name) : Bool :=
  (names.dropLast.foldl Path.join root).fits

/-- The regular files at most `depth` levels below a path, spelled from that path on. What lies in
a directory whose path is too long is not found. -/
def filesBelow (disk : Disk) (depth : Nat) (root : Path) : List Path :=
  match disk.searchRoot? root with
  | none => []
  | some start =>
    ((start.files depth).filter (opens root)).map fun names => names.foldl Path.join root

def endsWith (wanted : List Text) (path : Path) : Bool :=
  wanted.isSuffixOf path.shownNames

def rootOf (dir : Path) : Path :=
  if dir.bytes = [] then ⟨[Path.dot]⟩ else dir

def locate (disk : Disk) (depth : Nat) (dir : Path) (name : Text) : Except Fault Path :=
  let direct := dir.join name
  if disk.hasFile direct then .ok direct
  else
    let wanted := Path.shownNames ⟨name⟩
    if wanted = [] then .error (.missing name dir)
    else
      match (disk.filesBelow depth (rootOf dir)).find? (endsWith wanted) with
      | some path => .ok path
      | none => .error (.missing name dir)

def readText (disk : Disk) (path : Path) : Except Fault Text :=
  match disk.readBytes path with
  | .error cause => .error (.unreadable path cause)
  | .ok content =>
    match Utf8.decode? content with
    | some text => .ok text
    | none => .error (.unreadable path .invalidText)

def reader (disk : Disk) (depth : Nat) : Reader where
  locate := disk.locate depth
  read := disk.readText

theorem reader_plain (disk : Disk) (depth : Nat) : (disk.reader depth).Plain := rfl

end WorkerLint.Disk
