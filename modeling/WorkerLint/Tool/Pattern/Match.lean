import WorkerLint.Tool.Pattern

namespace WorkerLint.Tool

structure Reach where
  spot : Spot
  groups : List (Nat × Text)
  deriving DecidableEq, Repr

namespace Reach

def union (reached : List Reach) : List Reach → List Reach
  | [] => reached
  | new :: rest =>
    if reached.any fun old => old.spot.number = new.spot.number && old.groups == new.groups then
      union reached rest
    else union (reached ++ [new]) rest

def fresh (reached new : List Reach) : List Reach :=
  new.filter fun reach =>
    !reached.any fun old => old.spot.number = reach.spot.number && old.groups == reach.groups

def over? (same : Char → Char → Bool) (reach : Reach) : Text → Option Reach
  | [] => some reach
  | c :: rest =>
    match reach.spot.next? with
    | some (d, next) => if same c d then over? same { reach with spot := next } rest else none
    | none => none

def setGroup (reach : Reach) (number : Nat) (text : Text) : Reach :=
  { reach with groups := (number, text) :: reach.groups.filter (·.1 ≠ number) }

def iterate (step : List Reach → List Reach) : Nat → List Reach → List Reach
  | 0, reached => reached
  | count + 1, reached => iterate step count (step reached)

def spread (step : List Reach → List Reach) : Nat → List Reach → List Reach → List Reach
  | 0, reached, _ => reached
  | count + 1, reached, latest =>
    match fresh reached (step latest) with
    | [] => reached
    | new => spread step count (union reached new) new

end Reach

namespace Pattern

/-- The places where matches end that start at one of the given places; `same` tells which
characters count as equal. -/
def ends (same : Char → Char → Bool) : Pattern → List Reach → List Reach
  | .empty, reached => reached
  | .chars set, reached =>
    reached.filterMap fun reach =>
      match reach.spot.next? with
      | some (c, next) => if set c then some { reach with spot := next } else none
      | none => none
  | .look anchor, reached => reached.filter fun reach => anchor.holds reach.spot
  | .seq first second, reached => second.ends same (first.ends same reached)
  | .alt first second, reached => Reach.union (first.ends same reached) (second.ends same reached)
  | .times body least most, reached =>
    let enough := reached.foldl (fun size reach => max size (reach.spot.after.length + 2)) 0
    let more :=
      match most with
      | some most => min (most - least) enough
      | none => enough
    let started := Reach.iterate (body.ends same) (min least enough) reached
    Reach.spread (body.ends same) more started started
  | .group number body, reached =>
    reached.foldl
      (fun found reach =>
        Reach.union found ((body.ends same [reach]).map fun finish =>
          finish.setGroup number
            (reach.spot.after.take (finish.spot.number - reach.spot.number))))
      []
  | .back number, reached =>
    reached.filterMap fun reach =>
      match reach.groups.find? (·.1 = number) with
      | some (_, text) => reach.over? same text
      | none => none

end Pattern

structure Finder where
  matchesIn : Text → Bool
  find? : Text → Nat → Option (Nat × Nat)

inductive Extent
  | anywhere
  | words
  | lines
  deriving DecidableEq, Repr

namespace Finder

def sizes (same : Char → Char → Bool) (pattern : Pattern) (spot : Spot) : List Nat :=
  match pattern.regex? with
  | some regex => (regex.ends [spot]).map (·.number - spot.number)
  | none => (pattern.ends same [⟨spot, []⟩]).map (·.spot.number - spot.number)

def largest? : List Nat → Option Nat
  | [] => none
  | size :: rest => some (rest.foldl max size)

def farthest (sizes : Spot → List Nat) (text : Text) (start : Nat) : Option (Nat × Nat) :=
  ((Spot.all text).drop start).findSome? fun spot =>
    (largest? (sizes spot)).map fun size => (spot.number, size)

def isWordly (text : Text) (start size : Nat) : Bool :=
  !((start != 0 && (text[start - 1]?).any Pattern.wordSet) ||
    (text[start + size]?).any Pattern.wordSet)

/-- Looks for a match between words. In place of one that is not, a shorter one from the same place
is tried, in a text that is cut off by as much as the search began after its start; then one from a
later place. -/
def wordsFrom (sizes shorter : Spot → List Nat) (text : Text) (origin : Nat) :
    Nat → Nat × Nat → Option (Nat × Nat)
  | 0, _ => none
  | fuel + 1, (start, size) =>
    if isWordly text start size then some (start, size)
    else
      let cut := text.take (start + (size - 1) - origin)
      let less :=
        if size = 0 then none
        else ((Spot.all cut)[start]?).bind fun spot => largest? (shorter spot)
      match less with
      | some (less + 1) => wordsFrom sizes shorter text origin fuel (start, less + 1)
      | _ =>
        match farthest sizes text (start + 1) with
        | some found => wordsFrom sizes shorter text origin fuel found
        | none => none

def words (same : Char → Char → Bool) (pattern : Pattern) (text : Text) (start : Nat) :
    Option (Nat × Nat) := do
  let found ← farthest (sizes same pattern) text start
  let fuel := (text.length + 2) * (text.length + 2)
  wordsFrom (sizes same pattern) (sizes same pattern.endless) text start fuel found

def occurs (same : Char → Char → Bool) (pattern : Pattern) (text : Text) : Bool :=
  match pattern.regex? with
  | some regex => regex.matchesIn text
  | none => (Spot.all text).any fun spot => !(sizes same pattern spot).isEmpty

def ofPattern (same : Char → Char → Bool) (extent : Extent) (whether location : Pattern) :
    Finder :=
  let hasBack := whether.regex?.isNone
  let whole (text : Text) : Bool :=
    match extent with
    | .anywhere => occurs same whether text
    | .lines => occurs same whether.wholeLine text
    | .words =>
      if hasBack then (words same location text 0).isSome
      else occurs same whether.wholeWord text
  match extent with
  | .words => ⟨whole, words same location⟩
  | .lines => ⟨whole, farthest (sizes same location.wholeLine)⟩
  | .anywhere => ⟨whole, farthest (sizes same location)⟩

def any (finders : List Finder) : Finder where
  matchesIn text := finders.any (·.matchesIn text)
  find? text start :=
    (finders.filterMap (·.find? text start)).foldl
      (fun best (new : Nat × Nat) =>
        match best with
        | none => some new
        | some (start, size) =>
          if new.1 < start ∨ (new.1 = start ∧ size < new.2) then some new else some (start, size))
      none

end Finder

end WorkerLint.Tool
