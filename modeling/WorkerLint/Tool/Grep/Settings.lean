import WorkerLint.Machine.Program
import WorkerLint.Regex.CharSet
import WorkerLint.Tool.Grep.Rules
import WorkerLint.Tool.Options

namespace WorkerLint.Tool.Grep

inductive Grammar
  | basic
  | extended
  | fixed
  | perl
  deriving DecidableEq, Repr

def Grammar.named? (name : Text) : Option Grammar :=
  match String.ofList name with
  | "grep" => some .basic
  | "egrep" => some .extended
  | "awk" => some .extended
  | "gawk" => some .extended
  | "posixawk" => some .extended
  | "fgrep" => some .fixed
  | "perl" => some .perl
  | _ => none

inductive DirMode
  | read
  | recurse
  | skip
  deriving DecidableEq, Repr

inductive DeviceMode
  | readNamed
  | read
  | skip
  deriving DecidableEq, Repr

inductive BinaryMode
  | report
  | asText
  | skip
  deriving DecidableEq, Repr

inductive Listing
  | none
  | selected
  | others
  deriving DecidableEq, Repr

structure Source where
  text : Text
  place : Option (Text × Nat)
  deriving DecidableEq, Repr

structure Settings where
  grammar : Option Grammar
  patterns : Option (List Source)
  ignoreCase : Bool
  invert : Bool
  wholeWords : Bool
  wholeLines : Bool
  most : Option Nat
  after : Option Nat
  before : Option Nat
  around : Option Nat
  showName : Option Bool
  showLine : Bool
  showOffset : Bool
  alignTabs : Bool
  nulAfterName : Bool
  nulEndsLines : Bool
  counts : Bool
  quiet : Bool
  onlyMatching : Bool
  noMessages : Bool
  listing : Listing
  binary : BinaryMode
  dirs : DirMode
  followLinks : Bool
  devices : DeviceMode
  label : Option Text
  separator : Option Text
  color : Bool
  fileRules : List Rule
  dirRules : List Rule
  deriving DecidableEq, Repr

namespace Settings

def start : Settings where
  grammar := none
  patterns := none
  ignoreCase := false
  invert := false
  wholeWords := false
  wholeLines := false
  most := none
  after := none
  before := none
  around := none
  showName := none
  showLine := false
  showOffset := false
  alignTabs := false
  nulAfterName := false
  nulEndsLines := false
  counts := false
  quiet := false
  onlyMatching := false
  noMessages := false
  listing := .none
  binary := .report
  dirs := .read
  followLinks := false
  devices := .readNamed
  label := none
  separator := some "--".toList
  color := false
  fileRules := []
  dirRules := []

def addPatterns (settings : Settings) (new : List Source) : Settings :=
  let kept := new.foldl
    (fun (all : List Source) source =>
      if all.any (·.text == source.text) then all else all ++ [source])
    (settings.patterns.getD [])
  { settings with patterns := some kept }

end Settings

/-- The options. Those without a letter of their own have a sign instead. -/
def table : OptionTable where
  plain := "0123456789EFGHILPTUVabchilnoqRrsuvwxyZz".toList
  valued := "ABCDXdefm".toList
  long := [⟨"basic-regexp", 'G', .none⟩, ⟨"extended-regexp", 'E', .none⟩,
    ⟨"fixed-regexp", 'F', .none⟩, ⟨"fixed-strings", 'F', .none⟩, ⟨"perl-regexp", 'P', .none⟩,
    ⟨"after-context", 'A', .required⟩, ⟨"before-context", 'B', .required⟩,
    ⟨"binary-files", '=', .required⟩, ⟨"byte-offset", 'b', .none⟩, ⟨"binary", 'U', .none⟩,
    ⟨"context", 'C', .required⟩, ⟨"color", '%', .optional⟩, ⟨"colour", '%', .optional⟩,
    ⟨"count", 'c', .none⟩, ⟨"devices", 'D', .required⟩, ⟨"directories", 'd', .required⟩,
    ⟨"exclude", '!', .required⟩, ⟨"exclude-from", '<', .required⟩,
    ⟨"exclude-dir", '/', .required⟩, ⟨"file", 'f', .required⟩,
    ⟨"files-with-matches", 'l', .none⟩, ⟨"files-without-match", 'L', .none⟩,
    ⟨"group-separator", '~', .required⟩, ⟨"help", '?', .none⟩, ⟨"include", '&', .required⟩,
    ⟨"ignore-case", 'i', .none⟩, ⟨"no-ignore-case", '^', .none⟩, ⟨"initial-tab", 'T', .none⟩,
    ⟨"label", '@', .required⟩, ⟨"line-buffered", ';', .none⟩, ⟨"line-number", 'n', .none⟩,
    ⟨"line-regexp", 'x', .none⟩, ⟨"max-count", 'm', .required⟩, ⟨"no-filename", 'h', .none⟩,
    ⟨"no-group-separator", '~', .none⟩, ⟨"no-messages", 's', .none⟩, ⟨"null", 'Z', .none⟩,
    ⟨"null-data", 'z', .none⟩, ⟨"only-matching", 'o', .none⟩, ⟨"quiet", 'q', .none⟩,
    ⟨"recursive", 'r', .none⟩, ⟨"dereference-recursive", 'R', .none⟩,
    ⟨"regexp", 'e', .required⟩, ⟨"invert-match", 'v', .none⟩, ⟨"silent", 'q', .none⟩,
    ⟨"text", 'a', .none⟩, ⟨"unix-byte-offsets", 'u', .none⟩, ⟨"version", 'V', .none⟩,
    ⟨"with-filename", 'H', .none⟩, ⟨"word-regexp", 'w', .none⟩]

open Program

abbrev Asking := StateT Settings (ExceptT Ending (StateM Machine))

def message (launch : Launch) (text : Text) : StateM Machine Unit :=
  note launch.process (launch.name ++ ": ".toList ++ text ++ ['\n'])

def refuse (launch : Launch) (text : Text) : Asking α := do
  message launch text
  throw (.exited 2)

def baseName (name : Text) : Text :=
  (name.reverse.takeWhile (· ≠ '/')).reverse

def usage (launch : Launch) : Text :=
  let name := baseName launch.name
  "Usage: ".toList ++ name ++ " [OPTION]... PATTERNS [FILE]...\nTry '".toList ++ name ++
    " --help' for more information.\n".toList

def integer? (text : Text) : Option Int :=
  let digits? (text : Text) : Option Int :=
    if text ≠ [] ∧ text.all Char.isDigit then some (Text.digitsValue text) else none
  match text.dropWhile CharSet.asciiBlank with
  | '-' :: rest => (digits? rest).map (- ·)
  | '+' :: rest => digits? rest
  | rest => digits? rest

def contextLength (launch : Launch) (text : Text) : Asking Nat :=
  match integer? text with
  | some (.ofNat count) => pure count
  | _ => refuse launch (text ++ ": invalid context length argument".toList)

def setGrammar (launch : Launch) (grammar : Grammar) : Asking Unit := do
  let settings ← get
  if settings.grammar.any (· ≠ grammar) then
    refuse launch "conflicting matchers specified".toList
  set { settings with grammar := some grammar }

def linesOf (text : Text) : List Text :=
  let pieces := Text.pieces '\n' text
  if pieces.getLast? = some [] then pieces.dropLast else pieces

def contentOf (launch : Launch) (name : Text) : Asking Text := do
  let refused (denial : Denial) : Asking Text :=
    refuse launch (name ++ ": ".toList ++ denial.reason)
  if name = ['-'] then
    match ← readAll launch.process 0 with
    | .ok text => pure text
    | .error denial => refused denial
  else
    match (← getThe Machine).openFile launch.process .read name with
    | .error denial => refused denial
    | .ok (number, machine) =>
      match machine.unread number with
      | .ok text =>
        modifyThe Machine fun _ => machine.consume number text.length
        pure text
      | .error denial => refused denial

def setDirs (launch : Launch) (text : Text) : Asking Unit := do
  let modes := [("read", DirMode.read), ("recurse", .recurse), ("skip", .skip)]
  let bad (kind : String) : Asking Unit := do
    message launch (kind.toList ++ " argument '".toList ++ text ++
      "' for '--directories'\nValid arguments are:".toList ++
      modes.flatMap fun (name, _) => "\n  - '".toList ++ name.toList ++ ['\''])
    note launch.process (usage launch)
    throw (.exited 1)
  match modes.filter fun (name, _) => text.isPrefixOf name.toList with
  | [(_, mode)] => modify fun settings => { settings with dirs := mode }
  | [] => bad "invalid"
  | several =>
    match several.find? fun (name, _) => name.toList = text with
    | some (_, mode) => modify fun settings => { settings with dirs := mode }
    | none => bad "ambiguous"

def trimSlashes (text : Text) : Text :=
  match (text.reverse.dropWhile (· = '/')).reverse with
  | [] => text.take 1
  | kept => kept

def rulesFrom (text : Text) : List Rule :=
  (linesOf text).filterMap fun line =>
    let line := (line.reverse.dropWhile CharSet.asciiBlank).reverse
    if line.isEmpty || line.head? = some '#' then none else some ⟨line, false⟩

def setColor (launch : Launch) (value : Option Text) : Asking Unit := do
  match value with
  | none => modify fun settings => { settings with color := false }
  | some word =>
    let word := String.ofList (word.map Char.toLower)
    if ["always", "yes", "force"].elem word then
      modify fun settings => { settings with color := true }
    else if ["never", "no", "none", "auto", "tty", "if-tty"].elem word then
      modify fun settings => { settings with color := false }
    else
      note launch.process (usage launch)
      throw (.exited 0)

def setBinary (launch : Launch) (word : Text) : Asking Unit := do
  let mode ←
    match String.ofList word with
    | "binary" => pure BinaryMode.report
    | "text" => pure .asText
    | "without-match" => pure .skip
    | _ => refuse launch "unknown binary-files type".toList
  modify fun settings => { settings with binary := mode }

def setDevices (launch : Launch) (word : Text) : Asking Unit := do
  let mode ←
    match String.ofList word with
    | "read" => pure DeviceMode.read
    | "skip" => pure .skip
    | _ => refuse launch "unknown devices method".toList
  modify fun settings => { settings with devices := mode }

def setMost (launch : Launch) (word : Text) : Asking Unit := do
  match integer? word with
  | some (.ofNat count) => modify fun settings => { settings with most := some count }
  | some _ => modify fun settings => { settings with most := none }
  | none => refuse launch "invalid max count".toList

def takeValued (launch : Launch) (letter : Char) (value : Text) : Asking Unit := do
  match letter with
  | 'A' =>
    let count ← contextLength launch value
    modify fun settings => { settings with after := some count }
  | 'B' =>
    let count ← contextLength launch value
    modify fun settings => { settings with before := some count }
  | 'C' =>
    let count ← contextLength launch value
    modify fun settings => { settings with around := some count }
  | 'D' => setDevices launch value
  | 'X' =>
    match Grammar.named? value with
    | some grammar => setGrammar launch grammar
    | none => refuse launch ("invalid matcher ".toList ++ value)
  | 'd' => setDirs launch value
  | 'e' => modify (·.addPatterns ((Text.pieces '\n' value).map fun text => ⟨text, none⟩))
  | 'f' =>
    let lines := linesOf (← contentOf launch value)
    modify (·.addPatterns (lines.zipIdx.map fun (text, i) => ⟨text, some (value, i + 1)⟩))
  | 'm' => setMost launch value
  | '=' => setBinary launch value
  | '%' => setColor launch (some value)
  | '!' => modify fun settings =>
    { settings with fileRules := settings.fileRules ++ [⟨value, false⟩] }
  | '&' => modify fun settings =>
    { settings with fileRules := settings.fileRules ++ [⟨value, true⟩] }
  | '<' =>
    let rules := rulesFrom (← contentOf launch value)
    modify fun settings => { settings with fileRules := settings.fileRules ++ rules }
  | '/' => modify fun settings =>
    { settings with dirRules := settings.dirRules ++ [⟨trimSlashes value, false⟩] }
  | '~' => modify fun settings => { settings with separator := some value }
  | '@' => modify fun settings => { settings with label := some value }
  | _ => pure ()

def takePlain (launch : Launch) (letter : Char) : Asking Unit := do
  match letter with
  | 'E' => setGrammar launch .extended
  | 'F' => setGrammar launch .fixed
  | 'G' => setGrammar launch .basic
  | 'P' => setGrammar launch .perl
  | 'H' => modify fun settings => { settings with showName := some true }
  | 'h' => modify fun settings => { settings with showName := some false }
  | 'I' => modify fun settings => { settings with binary := .skip }
  | 'a' => modify fun settings => { settings with binary := .asText }
  | 'T' => modify fun settings => { settings with alignTabs := true }
  | 'u' => message launch "warning: --unix-byte-offsets (-u) is obsolete".toList
  | 'b' => modify fun settings => { settings with showOffset := true }
  | 'c' => modify fun settings => { settings with counts := true }
  | 'i' => modify fun settings => { settings with ignoreCase := true }
  | 'y' => modify fun settings => { settings with ignoreCase := true }
  | '^' => modify fun settings => { settings with ignoreCase := false }
  | 'L' => modify fun settings => { settings with listing := .others }
  | 'l' => modify fun settings => { settings with listing := .selected }
  | 'n' => modify fun settings => { settings with showLine := true }
  | 'o' => modify fun settings => { settings with onlyMatching := true }
  | 'q' => modify fun settings => { settings with quiet := true }
  | 'R' => modify fun settings => { settings with dirs := .recurse, followLinks := true }
  | 'r' => modify fun settings => { settings with dirs := .recurse }
  | 's' => modify fun settings => { settings with noMessages := true }
  | 'v' => modify fun settings => { settings with invert := true }
  | 'w' => modify fun settings => { settings with wholeWords := true }
  | 'x' => modify fun settings => { settings with wholeLines := true }
  | 'Z' => modify fun settings => { settings with nulAfterName := true }
  | 'z' => modify fun settings => { settings with nulEndsLines := true }
  | '~' => modify fun settings => { settings with separator := none }
  | '%' => setColor launch none
  | _ => pure ()

def takeDigits (launch : Launch) (digits : Text) : Asking Unit := do
  if digits ≠ [] then
    let trimmed := digits.dropWhile (· = '0')
    let text := if 21 < trimmed.length then trimmed.take 21 ++ "...".toList else digits
    let count ← contextLength launch text
    modify fun settings => { settings with around := some count }

/-- Takes options in order; `word` and `digits` are those of the number that is being read. -/
def takeOptions (launch : Launch) (word : Nat) (digits : Text) : List Chosen → Asking Unit
  | [] => takeDigits launch digits
  | option :: rest => do
    if option.letter.isDigit ∧ option.value = none then
      if option.word = word then takeOptions launch word (digits ++ [option.letter]) rest
      else takeOptions launch option.word [option.letter] rest
    else
      takeDigits launch digits
      match option.value with
      | some value => takeValued launch option.letter value
      | none => takePlain launch option.letter
      takeOptions launch word [] rest

def readArguments (launch : Launch) : ExceptT Ending (StateM Machine) (Settings × List Text) := do
  let arguments := table.read launch.args
  let wrongUse : ExceptT Ending (StateM Machine) (Settings × List Text) := do
    note launch.process (usage launch)
    throw (.exited 2)
  let (_, settings) ← (takeOptions launch 0 [] arguments.options).run Settings.start
  match arguments.bad with
  | some bad =>
    note launch.process (launch.name ++ ": ".toList ++ bad.message)
    wrongUse
  | none =>
    match settings.patterns, arguments.operands with
    | some _, operands => pure (settings, operands)
    | none, [] => wrongUse
    | none, pattern :: operands =>
      let pattern :=
        if settings.grammar ≠ some .fixed ∧ "\\-".toList.isPrefixOf pattern then pattern.tail
        else pattern
      let sources := (Text.pieces '\n' pattern).map fun text => ⟨text, none⟩
      pure (settings.addPatterns sources, operands)

end WorkerLint.Tool.Grep
