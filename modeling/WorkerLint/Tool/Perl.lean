import WorkerLint.Regex

/-! Expressions that are tried alternative by alternative, as in Perl, and how they are tried. -/

namespace WorkerLint.Tool

inductive Greed
  | most
  | fewest
  deriving DecidableEq, Repr

inductive GroupRef
  | number (number : Nat)
  | name (name : Text)
  deriving DecidableEq, Repr

inductive PerlEdge
  | textStart
  | textEnd
  | lastLineEnd
  | lineStart
  | lineEnd
  | wordEdge
  | noWordEdge
  | searchStart
  deriving DecidableEq, Repr

inductive Perl
  | empty
  | never
  | chars (set : CharSet)
  | edge (kind : PerlEdge)
  | seq (first second : Perl)
  | alt (first second : Perl)
  | times (body : Perl) (least : Nat) (most : Option Nat) (greed : Greed)
  | group (number : Nat) (body : Perl)
  | back (ref : GroupRef) (ignoreCase : Bool)
  | ahead (negated : Bool) (body : Perl)
  | retreat (size : Nat)
  | atomic (body : Perl)
  | keep
  | call (ref : GroupRef)
  | isSet (ref : GroupRef)
  | choice (condition yes no : Perl)
  | accept

namespace Perl

def groups : Perl → List (Nat × Perl)
  | .seq first second => first.groups ++ second.groups
  | .alt first second => first.groups ++ second.groups
  | .times body _ _ _ => body.groups
  | .group number body => (number, .group number body) :: body.groups
  | .ahead _ body => body.groups
  | .atomic body => body.groups
  | .choice condition yes no => condition.groups ++ yes.groups ++ no.groups
  | _ => []

def hasKeep : Perl → Bool
  | .seq first second => first.hasKeep || second.hasKeep
  | .alt first second => first.hasKeep || second.hasKeep
  | .times body _ _ _ => body.hasKeep
  | .group _ body => body.hasKeep
  | .ahead _ body => body.hasKeep
  | .atomic body => body.hasKeep
  | .choice condition yes no => condition.hasKeep || yes.hasKeep || no.hasKeep
  | .keep => true
  | _ => false

/-- The match is taken to begin in a part that is not taken itself. -/
def keepsAhead : Perl → Bool
  | .seq first second => first.keepsAhead || second.keepsAhead
  | .alt first second => first.keepsAhead || second.keepsAhead
  | .times body _ _ _ => body.keepsAhead
  | .group _ body => body.keepsAhead
  | .ahead _ body => body.hasKeep
  | .atomic body => body.keepsAhead
  | .choice condition yes no => condition.keepsAhead || yes.keepsAhead || no.keepsAhead
  | _ => false

structure Progress where
  place : Nat
  start : Nat
  spans : List (Nat × Nat × Nat)
  deriving DecidableEq, Repr

namespace Progress

def span? (progress : Progress) (number : Nat) : Option (Nat × Nat) :=
  (progress.spans.find? (·.1 = number)).map (·.2)

def setSpan (progress : Progress) (number start finish : Nat) : Progress :=
  { progress with
    spans := (number, start, finish) :: progress.spans.filter (·.1 ≠ number) }

end Progress

structure Subject where
  text : Array Char
  origin : Nat
  names : List (Text × Nat)
  groups : List (Nat × Perl)

namespace Subject

def isWord (subject : Subject) (place : Nat) : Bool :=
  (subject.text[place]?).any CharSet.asciiWord

def isLineEnd (subject : Subject) (place : Nat) : Bool :=
  subject.text[place]? == some '\n'

def holds (subject : Subject) (place : Nat) : PerlEdge → Bool
  | .textStart => place = 0
  | .textEnd => place = subject.text.size
  | .lastLineEnd =>
    place = subject.text.size || (place + 1 = subject.text.size && subject.isLineEnd place)
  | .lineStart =>
    place = 0 || (subject.isLineEnd (place - 1) && place < subject.text.size)
  | .lineEnd => place = subject.text.size || subject.isLineEnd place
  | .wordEdge => (0 < place && subject.isWord (place - 1)) != subject.isWord place
  | .noWordEdge => (0 < place && subject.isWord (place - 1)) == subject.isWord place
  | .searchStart => place = subject.origin

def numbers (subject : Subject) : GroupRef → List Nat
  | .number number => [number]
  | .name name => (subject.names.filter (·.1 == name)).map (·.2)

def spanOf? (subject : Subject) (progress : Progress) (ref : GroupRef) : Option (Nat × Nat) :=
  (subject.numbers ref).findSome? progress.span?

def repeats (subject : Subject) (ignoreCase : Bool) (place : Nat) (span : Nat × Nat) : Bool :=
  let size := span.2 - span.1
  place + size ≤ subject.text.size &&
    (List.range size).all fun i =>
      match subject.text[span.1 + i]?, subject.text[place + i]? with
      | some a, some b => a == b || (ignoreCase && a.toLower == b.toLower)
      | _, _ => false

end Subject

abbrev Next := Progress → Option Progress

/-- Tries an expression, and then what comes after it. The depth of the attempt is bounded. -/
def attempt (subject : Subject) : Nat → Perl → Progress → Next → Option Progress
  | 0, _, _, _ => none
  | fuel + 1, perl, progress, next =>
    match perl with
    | .empty => next progress
    | .never => none
    | .accept => some progress
    | .chars set =>
      match subject.text[progress.place]? with
      | some c => if set c then next { progress with place := progress.place + 1 } else none
      | none => none
    | .edge kind => if subject.holds progress.place kind then next progress else none
    | .seq first second =>
      attempt subject fuel first progress fun reached => attempt subject fuel second reached next
    | .alt first second =>
      match attempt subject fuel first progress next with
      | some found => some found
      | none => attempt subject fuel second progress next
    | .times body least most greed =>
      let once (progress : Progress) (next : Next) : Option Progress :=
        attempt subject fuel body progress next
      match least, most, greed with
      | least + 1, most, greed =>
        once progress fun reached =>
          attempt subject fuel (.times body least (most.map (· - 1)) greed) reached next
      | 0, some 0, _ => next progress
      | 0, most, .most =>
        let more := once progress fun reached =>
          if reached.place = progress.place then next reached
          else attempt subject fuel (.times body 0 (most.map (· - 1)) .most) reached next
        match more with
        | some found => some found
        | none => next progress
      | 0, most, .fewest =>
        match next progress with
        | some found => some found
        | none =>
          once progress fun reached =>
            if reached.place = progress.place then none
            else attempt subject fuel (.times body 0 (most.map (· - 1)) .fewest) reached next
    | .group number body =>
      attempt subject fuel body progress fun reached =>
        next (reached.setSpan number progress.place reached.place)
    | .back ref ignoreCase =>
      match subject.spanOf? progress ref with
      | some span =>
        if subject.repeats ignoreCase progress.place span then
          next { progress with place := progress.place + (span.2 - span.1) }
        else none
      | none => none
    | .ahead negated body =>
      match attempt subject fuel body progress some, negated with
      | some _, true => none
      | none, true => next progress
      | some reached, false => next { reached with place := progress.place }
      | none, false => none
    | .retreat size =>
      if size ≤ progress.place then next { progress with place := progress.place - size } else none
    | .atomic body =>
      match attempt subject fuel body progress some with
      | some reached => next reached
      | none => none
    | .keep => next { progress with start := progress.place }
    | .call ref =>
      match (subject.numbers ref).findSome? fun number =>
          subject.groups.find? (·.1 = number) with
      | some (_, body) =>
        attempt subject fuel body progress fun reached =>
          next { reached with spans := progress.spans }
      | none => none
    | .isSet ref => if (subject.spanOf? progress ref).isSome then next progress else none
    | .choice condition yes no =>
      match attempt subject fuel condition progress some with
      | some reached =>
        attempt subject fuel yes { reached with place := progress.place } next
      | none => attempt subject fuel no progress next

end Perl

end WorkerLint.Tool
