import WorkerLint.LineMap
import WorkerLint.Reader
import WorkerLint.Script
import WorkerLint.Trace

namespace WorkerLint

structure Bundle where
  lines : List Text
  map : LineMap
  deriving DecidableEq, Repr

namespace Bundle

def empty : Bundle :=
  ⟨[], LineMap.empty⟩

def text (bundle : Bundle) : Text :=
  bundle.lines.flatten

def importDir (primary : Path) : Path :=
  primary.parent?.getD ⟨[]⟩

def mergedNote (script : Script) (start count : Nat) : Text :=
  "merged ".toList ++ script.path.spelling ++ " at line ".toList ++ Text.ofNat start ++
    " (".toList ++ Text.ofNat count ++ " lines)".toList

structure Draft extends Bundle where
  next : Nat
  deriving DecidableEq, Repr

namespace Draft

def empty : Draft :=
  ⟨Bundle.empty, 1⟩

def spanFor (draft : Draft) (script : Script) : Span :=
  ⟨draft.next, script.path, 1⟩

def add (draft : Draft) (script : Script) : Traced Draft :=
  if script.prepared = [] then pure draft
  else do
    Traced.note .bundle (mergedNote script draft.next script.prepared.length)
    pure {
      lines := draft.lines ++ script.prepared
      map := draft.map.push (draft.spanFor script)
      next := draft.next + script.prepared.length }

end Draft

def selfNote (name : Text) : Text :=
  "skipping import ".toList ++ name ++ ": it is the file being linted".toList

def skipNote (name : Text) (fault : Fault) : Text :=
  "skipping import ".toList ++ name ++ ": ".toList ++ fault.message

/-- Appends the script that an import names. An import that cannot be found or read is skipped,
and so is the primary script itself. -/
def addImport (reader : Reader) (primary : Path) (draft : Draft) (name : Text) :
    Traced Draft :=
  match reader.readLines (importDir primary) name with
  | .error fault => do
    Traced.note .bundle (skipNote name fault)
    pure draft
  | .ok (path, lines) =>
    if path.same primary then do
      Traced.note .bundle (selfNote name)
      pure draft
    else draft.add ⟨path, lines⟩

def addImports (reader : Reader) (primary : Path) (draft : Draft) : List Text → Traced Draft
  | [] => pure draft
  | name :: rest => do
    let next ← addImport reader primary draft name
    addImports reader primary next rest

def primaryNote (primary : Path) (fault : Fault) : Text :=
  "skipping ".toList ++ primary.spelling ++ ": ".toList ++ fault.message

def readPrimary (reader : Reader) (primary : Path) : Traced (Option Script) :=
  match reader.read primary with
  | .error fault => do
    Traced.note .bundle (primaryNote primary fault)
    pure none
  | .ok text => pure (some ⟨primary, Text.splitLines text⟩)

/-- The bundle of a script: its imports in order, and then the script, which is read before
them. -/
def assemble (reader : Reader) (primary : Path) (imports : List Text) : Traced Bundle := do
  let script ← readPrimary reader primary
  let draft ← addImports reader primary .empty imports
  match script with
  | some script => do
    let whole ← draft.add script
    pure whole.toBundle
  | none => pure draft.toBundle

end Bundle

end WorkerLint
