import WorkerLint.CommandLine
import WorkerLint.Disk.Search

namespace WorkerLint.Cli

inductive Format
  | text
  | json
  deriving DecidableEq, Repr

structure Options where
  files : List Path
  config : Option Path
  verbose : Bool
  engine : Text
  depth : Nat
  format : Format
  deriving DecidableEq, Repr

inductive Usage
  | missingFiles
  | unknownArgument
  | invalidValue
  | badNumber
  | repeated
  | needlessValue
  | help
  | version
  deriving DecidableEq, Repr

def Usage.exitCode : Usage → Nat
  | .help => 0
  | .version => 0
  | _ => 2

inductive Key
  | config
  | engine
  | searchDepth
  | format
  deriving DecidableEq, Repr

inductive Flag
  | verbose
  | help
  | version
  deriving DecidableEq, Repr

/-- What has been read but not yet checked: files in a row, or an option whose value may still
come. It is checked when the next known argument arrives. -/
inductive Pending
  | nothing
  | files (texts : List Text)
  | value (key : Key) (text : Option Text)
  deriving DecidableEq, Repr

structure Parsed where
  files : List Path
  config : Option Path
  verbose : Bool
  engine : Option Text
  depth : Option Nat
  format : Option Format
  pending : Pending
  filesOnly : Bool

namespace Parsed

def start : Parsed :=
  ⟨[], none, false, none, none, none, .nothing, false⟩

def depth? (text : Text) : Option Nat :=
  match text with
  | '+' :: digits => Text.toWord? digits
  | _ => Text.toWord? text

def format? (text : Text) : Option Format :=
  if text = "text".toList then some .text
  else if text = "json".toList then some .json
  else none

/-- Gives an option its value. A second value is refused before it is looked at. -/
def setValue (parsed : Parsed) (key : Key) (text : Text) : Except Usage Parsed :=
  match key with
  | .config =>
    if parsed.config.isSome then .error .repeated
    else if text = [] then .error .invalidValue
    else .ok { parsed with config := some ⟨text⟩ }
  | .engine =>
    if parsed.engine.isSome then .error .repeated
    else .ok { parsed with engine := some text }
  | .searchDepth =>
    if parsed.depth.isSome then .error .repeated
    else
      match depth? text with
      | some depth => .ok { parsed with depth := some depth }
      | none => .error .badNumber
  | .format =>
    if parsed.format.isSome then .error .repeated
    else
      match format? text with
      | some format => .ok { parsed with format := some format }
      | none => .error .invalidValue

def settle (parsed : Parsed) : Except Usage Parsed :=
  let settled := { parsed with pending := .nothing }
  match parsed.pending with
  | .nothing => .ok settled
  | .files texts =>
    if texts.contains [] then .error .invalidValue
    else .ok { settled with files := parsed.files ++ texts.map Path.mk }
  | .value _ none => .error .invalidValue
  | .value key (some text) => settled.setValue key text

def addFile (parsed : Parsed) (text : Text) : Except Usage Parsed :=
  match parsed.pending with
  | .files texts => .ok { parsed with pending := .files (texts ++ [text]) }
  | _ => do
    let settled ← parsed.settle
    .ok { settled with pending := .files [text] }

def addFlag (parsed : Parsed) (flag : Flag) : Except Usage Parsed := do
  let settled ← parsed.settle
  match flag with
  | .help => .error .help
  | .version => .error .version
  | .verbose =>
    if settled.verbose then .error .repeated else .ok { settled with verbose := true }

def addKey (parsed : Parsed) (key : Key) (attached : Option Text) : Except Usage Parsed := do
  let settled ← parsed.settle
  match attached with
  | some text => settled.setValue key text
  | none => .ok { settled with pending := .value key none }

def longName? (name : Text) : Option (Key ⊕ Flag) :=
  if name = "config".toList then some (.inl .config)
  else if name = "engine".toList then some (.inl .engine)
  else if name = "search-depth".toList then some (.inl .searchDepth)
  else if name = "format".toList then some (.inl .format)
  else if name = "verbose".toList then some (.inr .verbose)
  else if name = "help".toList then some (.inr .help)
  else if name = "version".toList then some (.inr .version)
  else none

def shortName? (c : Char) : Option (Key ⊕ Flag) :=
  if c = 'c' then some (.inl .config)
  else if c = 'v' then some (.inr .verbose)
  else if c = 'h' then some (.inr .help)
  else if c = 'V' then some (.inr .version)
  else none

def attachedValue (text : Text) : Option Text :=
  match text.dropWhile (· ≠ '=') with
  | _ :: value => some value
  | [] => none

def addLong (parsed : Parsed) (text : Text) : Except Usage Parsed :=
  match longName? (text.takeWhile (· ≠ '=')), attachedValue text with
  | some (.inl key), value => parsed.addKey key value
  | some (.inr _), some _ => .error .needlessValue
  | some (.inr flag), none => parsed.addFlag flag
  | none, _ => .error .unknownArgument

/-- Letters after one dash. The rest of a cluster is the value of an option in it. -/
def addShort (parsed : Parsed) : Text → Except Usage Parsed
  | [] => .ok parsed
  | c :: rest =>
    match shortName? c with
    | none => .error .unknownArgument
    | some (.inl key) =>
      match rest with
      | [] => parsed.addKey key none
      | '=' :: value => parsed.addKey key (some value)
      | value => parsed.addKey key (some value)
    | some (.inr flag) => do
      let next ← parsed.addFlag flag
      next.addShort rest

def addWord (parsed : Parsed) (word : Text) : Except Usage Parsed :=
  match parsed.pending with
  | .value key none => .ok { parsed with pending := .value key (some word) }
  | _ => parsed.addFile word

def add (parsed : Parsed) (word : Text) : Except Usage Parsed :=
  if parsed.filesOnly then parsed.addFile word
  else
    match word with
    | ['-', '-'] => .ok { parsed with filesOnly := true }
    | '-' :: '-' :: text => parsed.addLong text
    | '-' :: c :: text => parsed.addShort (c :: text)
    | _ => parsed.addWord word

def finish (parsed : Parsed) (engine : Option Text) : Except Usage Options := do
  let settled ← parsed.settle
  if settled.files = [] then .error .missingFiles
  else
    .ok {
      files := settled.files
      config := settled.config
      verbose := settled.verbose
      engine := (settled.engine <|> engine).getD CommandLine.defaultCommand
      depth := settled.depth.getD Disk.defaultDepth
      format := settled.format.getD .text }

end Parsed

def parse (engine : Option Text) (args : List Text) : Except Usage Options := do
  let parsed ← args.foldlM Parsed.add Parsed.start
  parsed.finish engine

end WorkerLint.Cli
