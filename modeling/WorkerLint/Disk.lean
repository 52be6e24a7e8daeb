import WorkerLint.Fault
import WorkerLint.FileTree

namespace WorkerLint

inductive Step
  | stay
  | up
  | enter (name : Name)
  deriving DecidableEq, Repr

namespace Step

/-- What a piece of a path asks for. An empty piece, as after a final slash, asks for a directory
like a dot does. -/
def ofPiece (piece : Bytes) : Step :=
  if piece = [] ∨ piece = [Path.dot] then .stay
  else if piece = [Path.dot, Path.dot] then .up
  else .enter piece

def ofPath (path : Path) : List Step :=
  path.pieces.map ofPiece

end Step

inductive Intent
  | entry
  | target
  /-- The place where a file under this path would come to stand. -/
  | landing
  deriving DecidableEq, Repr

/-- A path of at most 4095 bytes can be followed. -/
def Path.fits (path : Path) : Bool :=
  path.bytes.length ≤ 4095

abbrev Place := List Name

structure Disk where
  root : FileTree
  here : Place

namespace Disk

def maxNameBytes : Nat := 255

def maxLinks : Nat := 40

def origin (dir : Place) (path : Path) : Place :=
  if path.isAbsolute then [] else dir

/-- Takes steps from a place. A link on the way is handed to `onLink`, with the place that holds
it and the steps that are left. -/
def follow (root : FileTree) (intent : Intent)
    (onLink : Place → Path → List Step → Except Cause Place) :
    Place → List Step → Except Cause Place
  | place, [] => .ok place
  | place, step :: rest =>
    match root.get? place with
    | some (.dir _) | none =>
      match step with
      | .stay => follow root intent onLink place rest
      | .up => follow root intent onLink place.dropLast rest
      | .enter name =>
        if maxNameBytes < name.length then .error .nameTooLong
        else
          let next := place ++ [name]
          match root.get? next with
          | some (.link target) =>
            if intent = .entry ∧ rest = [] then .ok next else onLink place target rest
          | some _ => follow root intent onLink next rest
          | none => if intent = .landing ∧ rest = [] then .ok next else .error .noEntry
    | some _ => .error .notDirectory

def followLinks (root : FileTree) (intent : Intent) :
    Nat → Place → List Step → Except Cause Place
  | 0 => follow root intent fun _ _ _ => .error .linkLoop
  | links + 1 => follow root intent fun place target rest =>
    followLinks root intent links (origin place target) (Step.ofPath target ++ rest)

def resolve (disk : Disk) (intent : Intent) (path : Path) : Except Cause Place :=
  if 0 ∈ path.bytes then .error .nulInPath
  else if path.bytes = [] then .error .noEntry
  else if !path.fits then .error .nameTooLong
  else followLinks disk.root intent maxLinks (origin disk.here path) (Step.ofPath path)

def lookup (disk : Disk) (intent : Intent) (path : Path) : Except Cause FileTree :=
  match disk.resolve intent path with
  | .error cause => .error cause
  | .ok place =>
    match disk.root.get? place with
    | some tree => .ok tree
    | none => .error .noEntry

def hasEntry (disk : Disk) (path : Path) : Bool :=
  match disk.lookup .target path with
  | .ok _ => true
  | .error _ => false

def hasFile (disk : Disk) (path : Path) : Bool :=
  match disk.lookup .target path with
  | .ok tree => tree.isFile
  | .error _ => false

def readBytes (disk : Disk) (path : Path) : Except Cause Bytes :=
  match disk.lookup .target path with
  | .error cause => .error cause
  | .ok (.file content) => .ok content
  | .ok (.special _) => .ok []
  | .ok _ => .error .isDirectory

def put (disk : Disk) (path : Path) (tree : FileTree) : Disk :=
  match disk.resolve .landing path with
  | .ok place => { disk with root := disk.root.put tree place }
  | .error _ => disk

def makeDir (disk : Disk) (path : Path) : Disk :=
  if disk.hasEntry path then disk else disk.put path .empty

def makeDirs (disk : Disk) (path : Path) : Disk :=
  path.leads.foldl makeDir disk

def makeRoom (disk : Disk) (path : Path) : Disk :=
  match path.parent? with
  | some above => disk.makeDirs above
  | none => disk

def writeFile (disk : Disk) (path : Path) (content : Bytes) : Disk :=
  (disk.makeRoom path).put path (.file content)

def makeLink (disk : Disk) (path target : Path) : Disk :=
  (disk.makeRoom path).put path (.link target)

def removeEntry? (disk : Disk) (path : Path) : Option Disk :=
  match disk.resolve .entry path with
  | .ok place => some { disk with root := disk.root.erase place }
  | .error _ => none

end Disk

end WorkerLint
