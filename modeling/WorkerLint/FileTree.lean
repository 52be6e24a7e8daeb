import WorkerLint.Path

namespace WorkerLint

inductive Special
  | null
  | zero
  | full
  | terminal
  | descriptor (fd : Nat)
  | program (name : Text)
  deriving DecidableEq, Repr

inductive FileTree
  | file (content : Bytes)
  | link (target : Path)
  | dir (entries : List (Name × FileTree))
  | special (kind : Special)

namespace FileTree

def empty : FileTree :=
  .dir []

def entries : FileTree → List (Name × FileTree)
  | .dir entries => entries
  | _ => []

def isDir : FileTree → Bool
  | .dir _ => true
  | _ => false

def isFile : FileTree → Bool
  | .file _ => true
  | _ => false

def find? (name : Name) : List (Name × FileTree) → Option FileTree
  | [] => none
  | (n, tree) :: rest => if n = name then some tree else find? name rest

def insert (name : Name) (tree : FileTree) : List (Name × FileTree) → List (Name × FileTree)
  | [] => [(name, tree)]
  | (n, old) :: rest => if n = name then (n, tree) :: rest else (n, old) :: insert name tree rest

def remove (name : Name) : List (Name × FileTree) → List (Name × FileTree)
  | [] => []
  | (n, tree) :: rest => if n = name then rest else (n, tree) :: remove name rest

def get? (tree : FileTree) : List Name → Option FileTree
  | [] => some tree
  | name :: rest =>
    match find? name tree.entries with
    | some child => child.get? rest
    | none => none

def put (tree : FileTree) (new : FileTree) : List Name → FileTree
  | [] => new
  | name :: rest =>
    let child := (find? name tree.entries).getD empty
    .dir (insert name (child.put new rest) tree.entries)

def erase (tree : FileTree) : List Name → FileTree
  | [] => empty
  | [name] => .dir (remove name tree.entries)
  | name :: rest =>
    match find? name tree.entries with
    | some child => .dir (insert name (child.erase rest) tree.entries)
    | none => tree

def nameLe (a b : Name) : Bool :=
  a ≤ b

/-- The regular files at most `depth` levels below the tree, each by the names that lead to it. A
directory comes before what it holds, and its entries are visited in the order of their names.
Links are not followed. -/
def files : Nat → FileTree → List (List Name)
  | _, .file _ => [[]]
  | _, .link _ => []
  | _, .special _ => []
  | 0, .dir _ => []
  | depth + 1, .dir entries =>
    let below := entries.map fun (name, tree) => (name, files depth tree)
    (below.mergeSort fun a b => nameLe a.1 b.1).flatMap fun (name, paths) => paths.map (name :: ·)

end FileTree

end WorkerLint
