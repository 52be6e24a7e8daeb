namespace WorkerLint

abbrev Ranges := Array (Nat × Nat)

namespace Ranges

def search (ranges : Ranges) (code : Nat) : (fuel low high : Nat) → Bool
  | 0, _, _ => false
  | fuel + 1, low, high =>
    let middle := (low + high) / 2
    match if low < high then ranges[middle]? else none with
    | none => false
    | some (first, last) =>
      if code < first then ranges.search code fuel low middle
      else if last < code then ranges.search code fuel (middle + 1) high
      else true

def holds (ranges : Ranges) (c : Char) : Bool :=
  ranges.search c.toNat ranges.size 0 ranges.size

end Ranges

/-- Every code point from the first to the last that is a number of steps away. -/
structure Run where
  first : Nat
  last : Nat
  step : Nat
  deriving DecidableEq, Repr

def Run.holds (run : Run) (c : Char) : Bool :=
  run.first ≤ c.toNat && c.toNat ≤ run.last && (c.toNat - run.first) % run.step == 0

end WorkerLint
