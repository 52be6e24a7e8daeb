import WorkerLint.Bundle
import WorkerLint.Directive
import WorkerLint.Engine
import WorkerLint.Relocation

namespace WorkerLint

inductive Mode
  | direct
  | merged
  deriving DecidableEq, Repr

def Mode.name : Mode → Text
  | .direct => "Direct".toList
  | .merged => "Merged".toList

structure Report where
  mode : Mode
  passed : Bool
  diagnostics : List Diagnostic
  deriving DecidableEq, Repr

namespace Lint

/-- Lints the bundle of a file and keeps what belongs to the file. The verdict is about the file
alone, whatever the engine says of the bundle. -/
def merged (reader : Reader) (engine : Engine σ) (path : Path) (imports : List Text) :
    StateT σ Traced (Except Fault Report) := do
  let bundle ← Bundle.assemble reader path imports
  match ← engine.call ⟨bundle.text, none⟩ with
  | .error fault => pure (.error fault)
  | .ok output =>
    let diagnostics := Diagnostic.relocateAllTo bundle.map path output.lines
    pure (.ok ⟨.merged, diagnostics.isEmpty, diagnostics⟩)

def directNote (path : Path) : Text :=
  path.spelling ++ ": no imports, linting directly".toList

def mergingNote (path : Path) (imports : List Text) : Text :=
  path.spelling ++ ": merging ".toList ++ Text.quotedList imports

def direct (engine : Engine σ) (path : Path) (text : Text) :
    StateT σ Traced (Except Fault Report) := do
  Traced.note .lint (directNote path)
  match ← engine.call ⟨text, some path⟩ with
  | .error fault => pure (.error fault)
  | .ok output => pure (.ok ⟨.direct, output.passed, Diagnostic.parseAll output.lines⟩)

def file (reader : Reader) (engine : Engine σ) (path : Path) :
    StateT σ Traced (Except Fault Report) :=
  match reader.read path with
  | .error fault => pure (.error fault)
  | .ok text =>
    let lines := Text.splitLines text
    if lines.any Directive.mentions then
      match Directive.collect lines with
      | .error fault => pure (.error fault)
      | .ok imports => do
        Traced.note .lint (mergingNote path imports)
        merged reader engine path imports
    else direct engine path text

end Lint

end WorkerLint
