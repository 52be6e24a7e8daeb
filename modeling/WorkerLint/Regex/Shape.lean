import WorkerLint.Regex
import WorkerLint.Regex.ByteRange
import WorkerLint.Text.Bytes

/-! Expressions in the form in which they are made ready for a search: sequences and choices are
flat, neighbouring characters are one literal, choices of single characters are one set, and what
all branches begin with stands before the choice. -/

namespace WorkerLint.Regex

inductive Shape
  | empty
  | literal (bytes : Bytes)
  | set (ranges : List (Nat × Nat))
  | look (anchor : Anchor)
  | seq (first second : Shape)
  | alt (first second : Shape)
  | times (body : Shape) (least : Nat) (most : Option Nat)
  | capture (body : Shape)
  deriving DecidableEq

namespace Shape

def widen (before : List (Nat × Nat)) (range : Nat × Nat) : List (Nat × Nat) :=
  match before with
  | (first, last) :: earlier =>
    if range.1 ≤ last + 1 then (first, max last range.2) :: earlier else range :: before
  | [] => [range]

def tidy (ranges : List (Nat × Nat)) : List (Nat × Nat) :=
  ((ranges.mergeSort fun r s => r.1 ≤ s.1).foldl widen []).reverse

def ofRanges : List (Nat × Nat) → Shape
  | [(first, last)] =>
    if first = last then .literal (Utf8.encode [Char.ofNat first]) else .set [(first, last)]
  | ranges => .set ranges

def ofChars (chars : List Char) : Shape :=
  ofRanges (tidy (chars.map fun c => (c.toNat, c.toNat)))

def parts : Shape → List Shape
  | .empty => []
  | .seq first second => first :: second.parts
  | shape => [shape]

def ofParts : List Shape → Shape
  | [] => .empty
  | [part] => part
  | part :: rest => .seq part (ofParts rest)

def joined : List Shape → List Shape
  | [] => []
  | .literal bytes :: rest =>
    match joined rest with
    | .literal more :: others => .literal (bytes ++ more) :: others
    | others => .literal bytes :: others
  | part :: rest => part :: joined rest

def sequence (shapes : List Shape) : Shape :=
  ofParts (joined (shapes.flatMap parts))

def least? : Shape → Option Nat
  | .empty => some 0
  | .literal bytes => some bytes.length
  | .set ranges => ranges.head?.map fun range => (Char.ofNat range.1).utf8Size
  | .look _ => some 0
  | .seq first second => do return (← first.least?) + (← second.least?)
  | .alt first second => do return min (← first.least?) (← second.least?)
  | .times body least _ => body.least?.map (· * least)
  | .capture body => body.least?

def most? : Shape → Option Nat
  | .empty => some 0
  | .literal bytes => some bytes.length
  | .set ranges => ranges.getLast?.map fun range => (Char.ofNat range.2).utf8Size
  | .look _ => some 0
  | .seq first second => do return (← first.most?) + (← second.most?)
  | .alt first second => do return max (← first.most?) (← second.most?)
  | .times body _ most => do return (← body.most?) * (← most)
  | .capture body => body.most?

/-- A repetition. What matches nothing but the empty text is not repeated. -/
def repeated (body : Shape) (least : Nat) (most : Option Nat) : Shape :=
  let (least, most) :=
    if body.most? = some 0 then (min least 1, some (min (most.getD 1) 1)) else (least, most)
  if most = some 0 then .empty
  else if least = 1 ∧ most = some 1 then body
  else .times body least most

def hasCapture : Shape → Bool
  | .empty | .literal _ | .set _ | .look _ => false
  | .seq first second => first.hasCapture || second.hasCapture
  | .alt first second => first.hasCapture || second.hasCapture
  | .times body _ _ => body.hasCapture
  | .capture _ => true

def branches : Shape → List Shape
  | .alt first second => first :: second.branches
  | shape => [shape]

def ofBranches : List Shape → Shape
  | [] => .set []
  | [branch] => branch
  | branch :: rest => .alt branch (ofBranches rest)

def char? : Shape → Option Char
  | .literal bytes =>
    match Utf8.decode? bytes with
    | some [c] => some c
    | _ => none
  | _ => none

def ranges? : Shape → Option (List (Nat × Nat))
  | .set ranges => some ranges
  | _ => none

def isSeq : Shape → Bool
  | .seq _ _ => true
  | _ => false

/-- What two sequences begin with. Captures are all different. -/
def common : List Shape → List Shape → List Shape
  | part :: parts, other :: others =>
    if part = other ∧ !part.hasCapture then part :: common parts others else []
  | _, _ => []

def shared : List Shape → List Shape
  | [] => []
  | branch :: rest =>
    if (branch :: rest).all isSeq then
      rest.foldl (fun start other => common start other.parts) branch.parts
    else []

def choice : (fuel : Nat) → List Shape → Shape
  | fuel, shapes =>
    let branches := shapes.flatMap branches
    match branches with
    | [branch] => branch
    | _ =>
      match branches.mapM char?, branches.mapM ranges? with
      | some letters, _ => ofChars letters
      | none, some sets => ofRanges (tidy sets.flatten)
      | none, none =>
        match fuel, shared branches with
        | fuel + 1, part :: more =>
          let start := part :: more
          let rests := branches.map fun branch => sequence (branch.parts.drop start.length)
          sequence (start ++ [choice fuel rests])
        | _, _ => ofBranches branches

end Shape

def branchShapes : Regex → List Shape
  | .empty => [.empty]
  | .oneOf options => [.ofChars options]
  | .chars set => [.ofRanges set.ranges]
  | .look anchor => [.look anchor]
  | .seq first second =>
    let first := first.branchShapes
    let second := second.branchShapes
    [.sequence [.choice first.length first, .choice second.length second]]
  | .alt first second =>
    let first := first.branchShapes
    .choice first.length first :: second.branchShapes
  | .times body least most =>
    let body := body.branchShapes
    [.repeated (.choice body.length body) least most]
  | .group kept body =>
    let body := body.branchShapes
    let inside := Shape.choice body.length body
    [if kept then .capture inside else inside]

def shape (regex : Regex) : Shape :=
  let branches := regex.branchShapes
  .choice branches.length branches

end WorkerLint.Regex
