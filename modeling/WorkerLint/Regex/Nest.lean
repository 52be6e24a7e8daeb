import WorkerLint.Regex.Fault

namespace WorkerLint.Regex

inductive Nest
  | leaf (span : Span)
  | node (span : Span) (parts : List Nest)

namespace Nest

def span : Nest → Span
  | leaf span => span
  | node span _ => span

/-- Parts side by side. One alone adds no level. -/
def row (span : Span) : List Nest → Nest
  | [] => .leaf span
  | [part] => part
  | parts => .node span parts

def beyond : Nat → Nest → Option Span
  | _, .leaf _ => none
  | 0, .node span _ => some span
  | levels + 1, .node _ parts => parts.findSome? fun part => beyond levels part

def maxLevels : Nat := 250

def fault? (nest : Nest) : Option Fault :=
  (nest.beyond maxLevels).map fun span => ⟨.nestedTooDeep, span, none⟩

end Nest

end WorkerLint.Regex
