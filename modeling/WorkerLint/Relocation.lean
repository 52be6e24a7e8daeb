import WorkerLint.Diagnostic
import WorkerLint.LineMap

namespace WorkerLint.Diagnostic

def relocate? (map : LineMap) (diagnostic : Diagnostic) : Option Diagnostic :=
  match map.source? diagnostic.line with
  | none => none
  | some (file, line) => some ⟨file.spelling, line, diagnostic.message⟩

def relocateTo? (map : LineMap) (requested : Path) (diagnostic : Diagnostic) :
    Option Diagnostic :=
  match map.source? diagnostic.line with
  | none => none
  | some (file, line) =>
    if file.same requested then some ⟨file.spelling, line, diagnostic.message⟩ else none

def relocateAll (map : LineMap) (raw : List Text) : List Diagnostic :=
  (parseAll raw).filterMap (relocate? map)

/-- The diagnostics of the engine's output that belong to one file, under any spelling of it. -/
def relocateAllTo (map : LineMap) (requested : Path) (raw : List Text) : List Diagnostic :=
  (parseAll raw).filterMap (relocateTo? map requested)

end WorkerLint.Diagnostic
