import WorkerLint.Regex.Parse
import WorkerLint.Trace

namespace WorkerLint.Cli

inductive Level
  | off
  | error
  | warn
  | info
  | debug
  | trace
  deriving DecidableEq, Repr

namespace Level

def ofText? (text : Text) : Option Level :=
  let lower := text.map Char.toLower
  if lower = "off".toList then some .off
  else if lower = "error".toList then some .error
  else if lower = "warn".toList then some .warn
  else if lower = "info".toList then some .info
  else if lower = "debug".toList then some .debug
  else if lower = "trace".toList then some .trace
  else none

def showsNotes : Level → Bool
  | .debug => true
  | .trace => true
  | _ => false

end Level

structure LogRule where
  target : Option Text
  level : Level
  deriving DecidableEq, Repr

namespace LogRule

def covers (rule : LogRule) (topic : Topic) : Bool :=
  rule.target.all (·.isPrefixOf topic.target)

def breadth (rule : LogRule) : Nat :=
  (rule.target.getD []).length

/-- Adds a rule; an older one for its target gives way, and the new one takes its place. -/
def insert (rule : LogRule) : List LogRule → List LogRule
  | [] => [rule]
  | old :: rest => if old.target = rule.target then rule :: rest else old :: insert rule rest

def closer (best : Option LogRule) (rule : LogRule) : Option LogRule :=
  match best with
  | none => some rule
  | some old => if old.breadth ≤ rule.breadth then some rule else some old

end LogRule

/-- What is wrong with a part of a specification, which is then passed over. -/
inductive SpecFault
  | malformed (part : Text)
  | tooManySlashes (spec : Text)
  | pattern (report : Text)
  deriving DecidableEq, Repr

def SpecFault.message : SpecFault → Text
  | .malformed part => "invalid logging spec '".toList ++ part ++ "'".toList
  | .tooManySlashes spec => "invalid logging spec '".toList ++ spec ++ "' (too many '/'s)".toList
  | .pattern report => "invalid regex filter - ".toList ++ report

structure LogFilter where
  rules : List LogRule
  pattern : Option Regex

namespace LogFilter

def readRule (text : Text) : Except SpecFault LogRule :=
  match Text.pieces '=' text with
  | [single] =>
    match Level.ofText? single with
    | some level => .ok ⟨none, level⟩
    | none => .ok ⟨some single, .trace⟩
  | [target, level] =>
    if Text.trim level = [] then .ok ⟨some target, .trace⟩
    else
      match Level.ofText? (Text.trim level) with
      | some level => .ok ⟨some target, level⟩
      | none => .error (.malformed (Text.trim level))
  | _ => .error (.malformed text)

def readRules (text : Text) : List LogRule × List SpecFault :=
  let parts := ((Text.pieces ',' text).map Text.trim).filter (· ≠ [])
  parts.foldl
    (fun (rules, faults) part =>
      match readRule part with
      | .ok rule => (rule.insert rules, faults)
      | .error fault => (rules, faults ++ [fault]))
    ([], [])

def orErrors : List LogRule → List LogRule
  | [] => [⟨none, .error⟩]
  | rules => rules

/-- A specification: rules, and after a slash a pattern. -/
def ofSpec (spec : Text) : LogFilter × List SpecFault :=
  match Text.pieces '/' spec with
  | [list] =>
    let (rules, faults) := readRules list
    (⟨orErrors rules, none⟩, faults)
  | [list, pattern] =>
    let (rules, faults) := readRules list
    match Regex.compile pattern with
    | .ok regex => (⟨orErrors rules, some regex⟩, faults)
    | .error report => (⟨orErrors rules, none⟩, faults ++ [.pattern report])
  | _ => (⟨orErrors [], none⟩, [.tooManySlashes spec])

/-- The rule with the longest target decides; a topic without a rule is silent. -/
def covers (filter : LogFilter) (topic : Topic) : Bool :=
  match (filter.rules.filter (·.covers topic)).foldl LogRule.closer none with
  | some rule => rule.level.showsNotes
  | none => false

def shows (filter : LogFilter) (topic : Topic) (message : Text) : Bool :=
  filter.covers topic && filter.pattern.all (·.matchesIn message)

end LogFilter

end WorkerLint.Cli
