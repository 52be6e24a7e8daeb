import WorkerLint.Regex.CharSet

namespace WorkerLint

namespace CharSet

def rangesBelow (set : CharSet) :
    Nat → (last : Option Nat) → (found : List (Nat × Nat)) → List (Nat × Nat)
  | 0, .none, found => found
  | 0, some last, found => (0, last) :: found
  | code + 1, last, found =>
    if code.isValidChar ∧ set (Char.ofNat code) then
      set.rangesBelow code (last <|> some code) found
    else
      match last with
      | .none => set.rangesBelow code .none found
      | some last => set.rangesBelow code .none ((code + 1, last) :: found)

def ranges (set : CharSet) : List (Nat × Nat) :=
  set.rangesBelow 0x110000 .none []

end CharSet

namespace Regex

structure ByteRange where
  low : Nat
  high : Nat
  deriving DecidableEq, Repr

namespace ByteRange

/-- Where a range of code points that is not one sequence of ranges of bytes is cut: at the gap that
belongs to no character, where characters grow by a byte, and where the last bytes of the first or
of the last character do not run through all their values. -/
def cut? (first last : Nat) : Option (Nat × Nat) :=
  if first < 0xE000 ∧ 0xD7FF < last then some (0xD7FF, 0xE000)
  else
    match [0x7F, 0x7FF, 0xFFFF].find? fun widest => first ≤ widest && widest < last with
    | some widest => some (widest, widest + 1)
    | none =>
      if last ≤ 0x7F then none
      else
        [0x40, 0x1000, 0x40000].findSome? fun block =>
          if first / block = last / block then none
          else if first % block ≠ 0 then
            let next := (first / block + 1) * block
            some (next - 1, next)
          else if last % block ≠ block - 1 then
            let next := last / block * block
            some (next - 1, next)
          else none

def between (first last : Nat) : List ByteRange :=
  List.zipWith (fun low high => ⟨low.toNat, high.toNat⟩)
    (String.utf8EncodeChar (Char.ofNat first)) (String.utf8EncodeChar (Char.ofNat last))

def sequencesFrom : (fuel first last : Nat) → List (List ByteRange)
  | 0, _, _ => []
  | fuel + 1, first, last =>
    if last < first then []
    else
      match cut? first last with
      | none => [between first last]
      | some (before, after) => sequencesFrom fuel first before ++ sequencesFrom fuel after last

/-- The sequences of bytes of a closed range of code points, in order. A cut leaves less on both
sides, so the number of code points is fuel enough. -/
def sequences (range : Nat × Nat) : List (List ByteRange) :=
  sequencesFrom (range.2 + 1 - range.1) range.1 range.2

end ByteRange

end Regex

end WorkerLint
