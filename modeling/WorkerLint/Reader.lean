import WorkerLint.Fault

namespace WorkerLint

def readLinesBy (locate : Path → Text → Except Fault Path) (read : Path → Except Fault Text)
    (dir : Path) (name : Text) : Except Fault (Path × List Text) :=
  match locate dir name with
  | .error fault => .error fault
  | .ok path =>
    match read path with
    | .error fault => .error fault
    | .ok text => .ok (path, Text.splitLines text)

/-- A source of scripts: `locate` finds the path of a script by the name it is imported under, and
`read` gives the text at a path. A reader may have its own way of doing both at once. -/
structure Reader where
  locate : (dir : Path) → (name : Text) → Except Fault Path
  read : Path → Except Fault Text
  readLines : (dir : Path) → (name : Text) → Except Fault (Path × List Text) :=
    readLinesBy locate read

def Reader.Plain (reader : Reader) : Prop :=
  reader.readLines = readLinesBy reader.locate reader.read

/-- Scripts held in memory under their paths. A script without text is there but cannot be
read. -/
structure Shelf where
  scripts : List (Path × Option Text)
  deriving DecidableEq, Repr

namespace Shelf

def empty : Shelf :=
  ⟨[]⟩

def find? (shelf : Shelf) (path : Path) : Option (Option Text) :=
  (shelf.scripts.find? fun entry => entry.1.same path).map (·.2)

def erase (shelf : Shelf) (path : Path) : Shelf :=
  ⟨shelf.scripts.filter fun entry => !entry.1.same path⟩

def put (shelf : Shelf) (path : Path) (text : Option Text) : Shelf :=
  ⟨(path, text) :: (shelf.erase path).scripts⟩

def locate (shelf : Shelf) (dir : Path) (name : Text) : Except Fault Path :=
  if (shelf.find? (dir.join name)).isSome then .ok (dir.join name) else .error (.missing name dir)

def read (shelf : Shelf) (path : Path) : Except Fault Text :=
  match shelf.find? path with
  | none => .error (.unreadable path .unlisted)
  | some none => .error (.unreadable path .withheld)
  | some (some text) => .ok text

def reader (shelf : Shelf) : Reader where
  locate := shelf.locate
  read := shelf.read

theorem reader_plain (shelf : Shelf) : shelf.reader.Plain := rfl

end Shelf

end WorkerLint
