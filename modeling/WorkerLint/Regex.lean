import WorkerLint.Regex.CharSet

/-! Regular expressions, by which the log can be filtered and tools search, and whether a text has a
match. An expression takes places of a text to the places where its matches end. -/

namespace WorkerLint

inductive Edge
  | boundary
  | inside
  | start
  | finish
  | startHalf
  | finishHalf
  deriving DecidableEq, Repr

inductive Anchor
  | textStart
  | textEnd
  | lineStart
  | lineEnd
  | lineStartCr
  | lineEndCr
  | words (anyScript : Bool) (edge : Edge)
  deriving DecidableEq, Repr

inductive Regex
  | empty
  | oneOf (options : List Char)
  | chars (set : CharSet)
  | look (anchor : Anchor)
  | seq (first second : Regex)
  | alt (first second : Regex)
  | times (body : Regex) (least : Nat) (most : Option Nat)
  | group (kept : Bool) (body : Regex)

structure Spot where
  number : Nat
  before : Option Char
  after : Text
  deriving DecidableEq, Repr

namespace Spot

def next? (spot : Spot) : Option (Char × Spot) :=
  match spot.after with
  | [] => none
  | c :: rest => some (c, ⟨spot.number + 1, some c, rest⟩)

def allFrom (number : Nat) (before : Option Char) : Text → List Spot
  | [] => [⟨number, before, []⟩]
  | c :: rest => ⟨number, before, c :: rest⟩ :: allFrom (number + 1) (some c) rest

def all (text : Text) : List Spot :=
  allFrom 0 none text

def merge : List Spot → List Spot → List Spot
  | [], others => others
  | spots, [] => spots
  | a :: spots, b :: others =>
    if a.number < b.number then a :: merge spots (b :: others)
    else if b.number < a.number then b :: merge (a :: spots) others
    else a :: merge spots others

def without : List Spot → List Spot → List Spot
  | [], _ => []
  | spots, [] => spots
  | a :: spots, b :: others =>
    if a.number < b.number then a :: without spots (b :: others)
    else if b.number < a.number then without (a :: spots) others
    else without spots others

end Spot

def Edge.holds (edge : Edge) (before after : Bool) : Bool :=
  match edge with
  | .boundary => before != after
  | .inside => before == after
  | .start => !before && after
  | .finish => before && !after
  | .startHalf => !before
  | .finishHalf => !after

def Anchor.holds (anchor : Anchor) (spot : Spot) : Bool :=
  let next := spot.after.head?
  match anchor with
  | .textStart => spot.before.isNone
  | .textEnd => next.isNone
  | .lineStart => spot.before.isNone || spot.before == some '\n'
  | .lineEnd => next.isNone || next == some '\n'
  | .lineStartCr =>
    spot.before.isNone || spot.before == some '\n' ||
      (spot.before == some '\r' && next != some '\n')
  | .lineEndCr =>
    next.isNone || next == some '\r' || (next == some '\n' && spot.before != some '\r')
  | .words anyScript edge =>
    let word := if anyScript then CharSet.word else CharSet.asciiWord
    edge.holds (spot.before.any word) (next.any word)

/-- So many rounds are enough to reach every place: each round but one at a place goes on. -/
def rounds : List Spot → Nat
  | [] => 0
  | spot :: _ => spot.after.length + 1

def iterate (step : List Spot → List Spot) : Nat → List Spot → List Spot
  | 0, spots => spots
  | count + 1, spots => iterate step count (step spots)

def spread (step : List Spot → List Spot) : Nat → List Spot → List Spot → List Spot
  | 0, reached, _ => reached
  | count + 1, reached, latest =>
    match Spot.without (step latest) reached with
    | [] => reached
    | new => spread step count (Spot.merge reached new) new

namespace Regex

def past (set : Char → Bool) (spots : List Spot) : List Spot :=
  spots.filterMap fun spot =>
    match spot.next? with
    | some (c, next) => if set c then some next else none
    | none => none

def ends : Regex → List Spot → List Spot
  | .empty, spots => spots
  | .oneOf options, spots => past options.contains spots
  | .chars set, spots => past set spots
  | .look anchor, spots => spots.filter anchor.holds
  | .seq first second, spots => second.ends (first.ends spots)
  | .alt first second, spots => Spot.merge (first.ends spots) (second.ends spots)
  | .times body least most, spots =>
    let enough := rounds spots
    let more :=
      match most with
      | some most => min (most - least) enough
      | none => enough
    let started := iterate body.ends (min least enough) spots
    spread body.ends more started started
  | .group _ body, spots => body.ends spots

def matchesIn (regex : Regex) (text : Text) : Bool :=
  !(regex.ends (Spot.all text)).isEmpty

end Regex

end WorkerLint
