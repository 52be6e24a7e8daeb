import WorkerLint.Path

namespace WorkerLint

structure Span where
  start : Nat
  file : Path
  origin : Nat
  deriving DecidableEq, Repr

/-- The least index at or above `low`, and below `high` if there is one, at which `p` fails; `p`
holds on an initial stretch only. -/
def bisect (p : Nat → Bool) (low high : Nat) : Nat :=
  if low < high then
    let middle := (low + high) / 2
    if p middle then bisect p (middle + 1) high else bisect p low middle
  else low
termination_by high - low

structure LineMap where
  spans : List Span
  deriving DecidableEq, Repr

namespace LineMap

def empty : LineMap :=
  ⟨[]⟩

/-- The span starts after every span that is there, as a span that is pushed has to. -/
def admits (map : LineMap) (span : Span) : Bool :=
  map.spans.getLast?.all (·.start < span.start)

def push (map : LineMap) (span : Span) : LineMap :=
  ⟨map.spans ++ [span]⟩

def startsBy (map : LineMap) (line index : Nat) : Bool :=
  match map.spans[index]? with
  | some span => span.start ≤ line
  | none => false

def spanAt? (map : LineMap) (line : Nat) : Option Span :=
  match bisect (map.startsBy line) 0 map.spans.length with
  | 0 => none
  | index + 1 => map.spans[index]?

def source? (map : LineMap) (line : Nat) : Option (Path × Nat) :=
  (map.spanAt? line).map fun span => (span.file, line - span.start + span.origin)

end LineMap

end WorkerLint
