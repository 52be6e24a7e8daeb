import WorkerLint.Regex.Shape
import Std.Data.HashMap

/-! How many bytes an expression takes when it is made ready for a search, and whether these are too
many. The states of an automaton are counted rather than built. -/

namespace WorkerLint.Regex

structure Tally where
  states : Nat
  listed : Nat
  deriving DecidableEq, Repr

def maxBytes : Nat := 10485760

namespace Tally

def bytes (tally : Tally) : Nat :=
  32 * tally.states + tally.listed

def isOver (tally : Tally) : Bool :=
  maxBytes < tally.bytes

def grow (tally : Tally) (states : Nat) : Tally :=
  { tally with states := tally.states + states }

def lead (tally : Tally) (count : Nat) : Tally :=
  { tally with listed := tally.listed + 4 * count }

def read (tally : Tally) (count : Nat) : Tally :=
  { tally with listed := tally.listed + 8 * count }

end Tally

structure Made where
  tally : Tally
  forked : Bool
  deriving DecidableEq, Repr

def Made.link (made : Made) : Tally :=
  if made.forked then made.tally.lead 1 else made.tally

/-- States that were added already, each in the slot of its key. A later one takes the place of an
earlier one with the same slot. -/
structure Cache where
  slots : Nat
  entries : Std.HashMap Nat (List Nat × Nat)

namespace Cache

def fresh (slots : Nat) : Cache :=
  ⟨slots, ∅⟩

def hash (key : List Nat) : UInt64 :=
  key.foldl (fun hash n => (hash ^^^ UInt64.ofNat n) * 1099511628211) 14695981039346656037

def slot (cache : Cache) (key : List Nat) : Nat :=
  (hash key).toNat % cache.slots

def find? (cache : Cache) (key : List Nat) : Option Nat :=
  match cache.entries[cache.slot key]? with
  | some (known, state) => if known = key then some state else none
  | none => none

def put (cache : Cache) (key : List Nat) (state : Nat) : Cache :=
  { cache with entries := cache.entries.insert (cache.slot key) (key, state) }

end Cache

structure SetTally where
  tally : Tally
  cache : Cache

namespace SetTally

def state (sofar : SetTally) (key : List Nat) (ranges : Nat) : Nat × SetTally :=
  match sofar.cache.find? key with
  | some state => (state, sofar)
  | none =>
    let state := sofar.tally.states
    (state, ⟨(sofar.tally.grow 1).read ranges, sofar.cache.put key state⟩)

def chain (sofar : SetTally) (next : Nat) (sequence : List ByteRange) : SetTally :=
  (sequence.foldl
    (fun (before : Nat × SetTally) range =>
      before.2.state [before.1, range.low, range.high] 0)
    (next, sofar)).2

end SetTally

/-- A state that is not complete: its ranges of bytes, each with the state that follows, and the
range whose next state is not known yet. -/
structure Node where
  key : List Nat
  latest : Option ByteRange

def Node.close (node : Node) (next : Nat) : Node :=
  match node.latest with
  | none => node
  | some range => ⟨node.key ++ [range.low, range.high, next], none⟩

namespace SetTally

def complete (sofar : SetTally) (node : Node) : Nat × SetTally :=
  sofar.state node.key (node.key.length / 3)

def settle (sofar : SetTally) (target : Nat) : List Node → Nat × SetTally
  | [] => (target, sofar)
  | node :: deeper =>
    let (next, sofar) := sofar.settle target deeper
    sofar.complete (node.close next)

def add (sofar : SetTally) (target : Nat) :
    List Node → List ByteRange → List Node × SetTally
  | node :: deeper, range :: rest =>
    if node.latest = some range ∧ !rest.isEmpty then
      let (deeper, sofar) := sofar.add target deeper rest
      (node :: deeper, sofar)
    else
      let (next, sofar) := sofar.settle target deeper
      ({ node.close next with latest := some range } ::
        rest.map fun range => ⟨[], some range⟩, sofar)
  | nodes, _ => (nodes, sofar)

end SetTally

def forwardSet (sequences : List (List ByteRange)) (tally : Tally) : Tally :=
  let target := tally.states
  let start : List Node × SetTally := ([⟨[], none⟩], ⟨tally.grow 1, .fresh 10000⟩)
  let (nodes, sofar) := sequences.foldl
    (fun (before : List Node × SetTally) sequence => before.2.add target before.1 sequence) start
  (sofar.settle target nodes).2.tally

def backwardSet (sequences : List (List ByteRange)) (tally : Tally) : Tally :=
  let next := tally.states + 1
  let start : SetTally := ⟨tally.grow 2, .fresh 1000⟩
  let sofar := sequences.foldl (fun sofar sequence => sofar.chain next sequence) start
  sofar.tally.lead sequences.length

def countSet (backward : Bool) (ranges : List (Nat × Nat)) (tally : Tally) : Tally :=
  if ranges.all (·.2 ≤ 0x7F) then (tally.grow 2).read ranges.length
  else
    let sequences := ranges.flatMap ByteRange.sequences
    if backward then backwardSet sequences tally else forwardSet sequences tally

def chunks : List Bytes → List (List Bytes)
  | [] => [[]]
  | [] :: rest => [] :: chunks rest
  | word :: rest =>
    match chunks rest with
    | [] => [[word]]
    | chunk :: more => (word :: chunk) :: more

def tails (byte : UInt8) (words : List Bytes) : List Bytes :=
  words.filterMap fun word =>
    match word with
    | first :: rest => if first = byte then some rest else none
    | [] => none

def countWords : (fuel : Nat) → List Bytes → Tally → Tally
  | 0, _, tally => tally
  | fuel + 1, words, tally =>
    let ended := words.takeWhile (·.isEmpty)
    let chunks := chunks (ended.take 1 ++ words.drop ended.length)
    let inside := chunks.foldl
      (fun tally chunk =>
        let bytes := (chunk.filterMap (·.head?)).eraseDups
        let tally := bytes.foldl
          (fun tally byte =>
            let below := tails byte chunk
            if below.all (·.isEmpty) then tally else countWords fuel below tally)
          tally
        match bytes.length with
        | 0 => tally
        | 1 => (tally.grow 1).lead 1
        | count => ((tally.grow 1).read count).lead 1)
      tally
    (inside.grow 1).lead (chunks.length - 1)

def more (one : Tally → Made) : Nat → Made → Made
  | 0, made => made
  | count + 1, made =>
    if made.tally.isOver then made else more one count (one made.link)

def exactly (one : Tally → Made) : Nat → Tally → Made
  | 0, tally => ⟨tally.grow 1, false⟩
  | count + 1, tally => more one count (one tally)

def optional (one : Tally → Made) : Nat → Made → Made
  | 0, made => ⟨made.link, false⟩
  | count + 1, made =>
    if made.tally.isOver then made
    else
      let next := one (made.link.grow 1)
      optional one count ⟨next.tally.lead 2, next.forked⟩

inductive Turn
  | alone
  | second
  | later

namespace Turn

def next : Turn → Turn
  | alone => second
  | _ => later

def join (turn : Turn) (made : Made) : Tally :=
  let tally := made.link.lead 1
  match turn with
  | second => tally.grow 2
  | _ => tally

def settle (turn : Turn) (made : Made) : Made :=
  match turn with
  | alone => made
  | _ => ⟨turn.join made, false⟩

end Turn

namespace Shape

def bytes? : Shape → Option Bytes
  | .literal bytes => some bytes
  | _ => none

def words? (shape : Shape) (turn : Turn) : Option (List Bytes) :=
  match turn with
  | .alone => shape.branches.mapM bytes?
  | _ => none

def count (backward : Bool) : Turn → Shape → Tally → Made
  | turn, .empty, tally => turn.settle ⟨tally.grow 1, false⟩
  | turn, .literal bytes, tally => turn.settle ⟨tally.grow bytes.length, false⟩
  | turn, .set ranges, tally => turn.settle ⟨countSet backward ranges tally, false⟩
  | turn, .look _, tally => turn.settle ⟨tally.grow 1, false⟩
  | turn, .seq first second, tally =>
    turn.settle <|
      if backward then first.count backward .alone (second.count backward .alone tally).link
      else second.count backward .alone (first.count backward .alone tally).link
  | turn, .alt first second, tally =>
    match words? (.alt first second) turn with
    | some words =>
      let words := if backward then words.map List.reverse else words
      let longest := (words.map List.length).foldl max 0
      ⟨countWords (longest + 1) words (tally.grow 1), false⟩
    | none =>
      let tally := turn.join (first.count backward .alone tally)
      second.count backward turn.next tally
  | turn, .times body least most, tally =>
    let one := body.count backward .alone
    turn.settle <|
      match least, most with
      | 0, some 1 => ⟨((one (tally.grow 1)).link.grow 1).lead 2, false⟩
      | 0, none =>
        if body.least?.any (0 < ·) then ⟨(one (tally.grow 1)).link.lead 1, true⟩
        else ⟨((one tally).link.grow 3).lead 4, false⟩
      | least, none => ⟨((exactly one least tally).link.grow 1).lead 1, true⟩
      | least, some most =>
        let made := exactly one least tally
        if most ≤ least then made else optional one (most - least) ⟨made.tally.grow 1, made.forked⟩
  | turn, .capture body, tally =>
    turn.settle <|
      if backward then body.count backward .alone tally
      else ⟨(body.count backward .alone (tally.grow 1)).link.grow 1, false⟩

def isOpening : Shape → Bool
  | .look anchor => anchor = .textStart
  | .seq first second => first.isOpening || (first.most? = some 0 && second.isOpening)
  | .alt first second => first.isOpening && second.isOpening
  | .times body least _ => 0 < least && body.isOpening
  | .capture body => body.isOpening
  | _ => false

def isClosing : Shape → Bool
  | .look anchor => anchor = .textEnd
  | .seq first second => second.isClosing || (second.most? = some 0 && first.isClosing)
  | .alt first second => first.isClosing && second.isClosing
  | .times body least _ => 0 < least && body.isClosing
  | .capture body => body.isClosing
  | _ => false

def total (backward : Bool) (shape : Shape) : Tally :=
  let isFixed := if backward then shape.isClosing else shape.isOpening
  let start : Tally := if isFixed then ⟨1, 0⟩ else ((⟨3, 0⟩ : Tally).read 1).lead 2
  (Shape.count backward .alone (.capture shape) start).link.grow 1

end Shape

def bound : Regex → Nat
  | .empty => 100
  | .oneOf _ => 1000
  | .chars _ => 200000
  | .look _ => 100
  | .seq first second => first.bound + second.bound
  | .alt first second => first.bound + second.bound + 100
  | .times body least most => (max least (most.getD 1) + 1) * (body.bound + 100)
  | .group _ body => body.bound + 100

/-- An expression takes no more bytes than it may, whether texts are read forward or backward. Most
expressions are so small that a rough count shows it. -/
def fits (regex : Regex) : Bool :=
  regex.bound + 1000 ≤ maxBytes ||
    (let shape := regex.shape
    !(shape.total false).isOver && !(shape.total true).isOver)

end WorkerLint.Regex
