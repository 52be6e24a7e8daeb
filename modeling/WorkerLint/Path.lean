import WorkerLint.Text.Bytes

/-! Paths: a path keeps the bytes it was given, and is compared by its components. Paths and the
names in them need not be valid UTF-8. -/

namespace WorkerLint

abbrev Name := Bytes

structure Path where
  ofBytes ::
  bytes : Bytes
  deriving DecidableEq, Repr

inductive Component
  | root
  | here
  | up
  | name (name : Name)
  deriving DecidableEq, Repr

def Component.name? : Component → Option Name
  | .name own => some own
  | _ => none

namespace Path

def separator : UInt8 := 0x2F

def dot : UInt8 := 0x2E

def mk (spelling : Text) : Path :=
  ⟨spelling⟩

def spelling (path : Path) : Text :=
  Utf8.decodeLossy path.bytes

def pieces (path : Path) : List Bytes :=
  Text.pieces separator path.bytes

def component? (piece : Bytes) : Option Component :=
  if piece = [] ∨ piece = [dot] then none
  else if piece = [dot, dot] then some .up
  else some (.name piece)

/-- What the first piece stands for. Before a slash the empty piece is the root, and a dot counts
in this place only. -/
def leading (first : Bytes) (alone : Bool) : List Component :=
  if first = [] then if alone then [] else [.root]
  else if first = [dot] then [.here]
  else (component? first).toList

def components (path : Path) : List Component :=
  match path.pieces with
  | [] => []
  | first :: rest => leading first rest.isEmpty ++ rest.filterMap component?

def same (p q : Path) : Bool :=
  p.components == q.components

theorem same_iff (p q : Path) : p.same q = true ↔ p.components = q.components := by
  simp [same]

def names (path : Path) : List Name :=
  path.components.filterMap Component.name?

/-- The names in the path as they are shown. Different names can be shown alike. -/
def shownNames (path : Path) : List Text :=
  path.names.map Utf8.decodeLossy

def isAbsolute (path : Path) : Bool :=
  path.bytes.head? == some separator

def join (dir : Path) (name : Bytes) : Path :=
  if isAbsolute ⟨name⟩ ∨ dir.bytes = [] then ⟨name⟩
  else if dir.bytes.getLast? = some separator then ⟨dir.bytes ++ name⟩
  else ⟨dir.bytes ++ separator :: name⟩

def initials : List Bytes → List (List Bytes)
  | [] => []
  | piece :: rest => [piece] :: (initials rest).map (piece :: ·)

def leads (path : Path) : List Path :=
  (initials path.pieces).map fun pieces => ⟨Text.join [separator] pieces⟩

def dropIdleEnd (pieces : List Bytes) : List Bytes :=
  (pieces.reverse.dropWhile fun piece => (component? piece).isNone).reverse

/-- The path without its last component, and without the empty pieces and dots that stood before
it. The root and the empty path have no parent. -/
def parent? (path : Path) : Option Path :=
  match path.pieces with
  | [] => none
  | first :: rest =>
    let body := dropIdleEnd rest
    if body = [] then
      if first = [] then none else some ⟨[]⟩
    else
      let above := dropIdleEnd body.dropLast
      if first = [] ∧ above = [] then some ⟨[separator]⟩
      else some ⟨Text.join [separator] (first :: above)⟩

end Path

end WorkerLint
