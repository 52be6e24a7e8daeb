import WorkerLint.Shell.Arith
import WorkerLint.Shell.Glob

namespace WorkerLint.Shell

structure Mode where
  makesFields : Bool
  isQuoted : Bool
  /-- The word is what a parameter is replaced by, so its own text is cut as well. -/
  isOperand : Bool
  isAssigned : Bool
  deriving DecidableEq, Repr

namespace Mode

def plain : Mode := ⟨false, false, false, false⟩

def fields : Mode := { plain with makesFields := true }

def assigned : Mode := { plain with isAssigned := true }

def quoted : Mode := { plain with isQuoted := true }

end Mode

def homes : List (String × String) :=
  [("root", "/root"), ("daemon", "/usr/sbin"), ("bin", "/bin"), ("sys", "/dev"), ("sync", "/bin"),
    ("games", "/usr/games"), ("man", "/var/cache/man"), ("lp", "/var/spool/lpd"),
    ("mail", "/var/mail"), ("news", "/var/spool/news"), ("uucp", "/var/spool/uucp"),
    ("proxy", "/bin"), ("www-data", "/var/www"), ("backup", "/var/backups"),
    ("list", "/var/list"), ("irc", "/run/ircd"), ("nobody", "/nonexistent"),
    ("ubuntu", "/home/ubuntu")]

def flagLetters (state : State) : Text :=
  Flag.table.reverse.filterMap fun (flag, _, letter) => if state.isOn flag then letter else none

namespace Expand

def userName (isAssigned : Bool) : Word → Option (Text × Word)
  | [] => some ([], [])
  | .plain c :: rest =>
    if c = '/' ∨ (c = ':' ∧ isAssigned) then some ([], .plain c :: rest)
    else (userName isAssigned rest).map fun (name, after) => (c :: name, after)
  | _ => none

def tilde? (state : State) (isAssigned : Bool) : Word → Option (Text × Word)
  | .plain '~' :: rest =>
    match userName isAssigned rest with
    | none => none
    | some ([], after) => (state.value? "HOME".toList).map (·, after)
    | some (name, after) =>
      (homes.find? (·.1.toList == name)).map fun (_, home) => (home.toList, after)
  | _ => none

def join (separator : Option Char) (texts : List Text) : Text :=
  Text.join separator.toList texts

/-- All positional parameters as one text. Where fields are made a gap stands between them, which
is a NUL. -/
def allParams (state : State) (name : Char) (isQuoted makesFields : Bool) : Text :=
  let first : Option Char :=
    match state.value? "IFS".toList with
    | some separators => separators.head?
    | none => some ' '
  let gap : Option Char :=
    if makesFields && isQuoted && name == '@' then some '\x00'
    else if makesFields && !isQuoted then
      if (state.value? "IFS".toList).isSome then some '\x00' else some ' '
    else first
  join gap state.params

def paramValue (state : State) (name : Text) (isQuoted makesFields : Bool) : Option Text :=
  match name with
  | [] => none
  | c :: _ =>
    if c.isDigit then
      let number := Text.digitsValue name
      if number = 0 then some state.name else state.params[number - 1]?
    else if isNameStart c then state.value? name
    else
      match c with
      | '$' => some (Text.ofNat state.rootId)
      | '?' => some (Text.ofNat state.status)
      | '#' => some (Text.ofNat state.params.length)
      | '!' => state.lastJob.map Text.ofNat
      | '-' => some (flagLetters state)
      | _ => some (allParams state c isQuoted makesFields)

def lookup (mode : Mode) (name : Text) (use : ParamUse) : Act (Option Text) := do
  let makesFields := mode.makesFields &&
    match use with
    | .ifPresent _ => false
    | .length => false
    | _ => true
  pure (paramValue (← get) name mode.isQuoted makesFields)

def valueRun (state : State) (mode : Mode) (name value : Text) : Run :=
  let cutting : Cutting :=
    if !mode.isQuoted then .atSeparators
    else if name = ['@'] ∧ state.params ≠ [] then .atGaps
    else .never
  ⟨Field.ofText mode.isQuoted value, cutting⟩

def requireSet (name : Text) : Act Unit := do
  if (← get).isOn .nounset then Act.fail (name ++ ": parameter not set".toList)

def beforeGap (text : Text) : Text :=
  text.takeWhile (· ≠ '\x00')

def startCut? (pattern : List Glob.Item) (longest : Bool) (text : Text) : Option Nat :=
  let sizes := List.range ((beforeGap text).length + 1)
  (if longest then sizes.reverse else sizes).find? fun size =>
    Glob.accepts pattern (text.take size)

def endCut? (pattern : List Glob.Item) (longest : Bool) (text : Text) : Option Nat :=
  let sizes := List.range (text.length + 1)
  (if longest then sizes else sizes.reverse).find? fun size =>
    Glob.accepts pattern (beforeGap (text.drop size))

def trim (use : ParamUse) (pattern : Field) (text : Text) : Text :=
  let items := Glob.items (Glob.glyphs pattern)
  match use with
  | .withoutStart longest => text.drop ((startCut? items longest text).getD 0)
  | .withoutEnd longest => text.take ((endCut? items longest text).getD text.length)
  | _ => text

def assign (name value : Text) : Act Unit :=
  if isName name then Act.setVariable name value
  else Act.fail (name ++ ": bad variable name".toList)

def missing (name : Text) (emptyToo hasText : Bool) (message : Text) : Act α :=
  let shown :=
    if hasText then message
    else if emptyToo then "parameter not set or null".toList
    else "parameter not set".toList
  Act.fail (name ++ ": ".toList ++ shown)

def cleanOutput (text : Text) : Text :=
  Text.dropEndWhile (· = '\n') (text.filter (· ≠ '\x00'))

def plainRun (mode : Mode) (inQuotes : Bool) (text : Text) : Run :=
  ⟨Field.ofText false text,
    if mode.isOperand && !mode.isQuoted && !inQuotes then .atSeparators else .never⟩

def consPlain (mode : Mode) (inQuotes : Bool) (c : Char) : Bool → Expanded → Expanded
  | true, run :: rest => { run with pieces := .char c false :: run.pieces } :: rest
  | _, runs => plainRun mode inQuotes [c] :: runs

def fixedRun (field : Field) : Run :=
  ⟨field, .never⟩

def startsPlain : Word → Bool
  | .plain _ :: _ => true
  | _ => false

mutual

/-- Expands the parts of a word. Here `output` runs a command for its output; `atTilde` tells that
a tilde may stand for a directory. -/
def parts (output : Command → Act Text) : Nat → Mode → (inQuotes atTilde : Bool) → Word →
    Act Expanded
  | 0, _, _, _, _ => pure []
  | _, _, _, _, [] => pure []
  | fuel + 1, mode, inQuotes, atTilde, part :: rest => do
    let state ← get
    match if atTilde then tilde? state mode.isAssigned (part :: rest) else none with
    | some (home, after) =>
      let more ← parts output fuel mode inQuotes false after
      pure (fixedRun (Field.ofText true home) :: more)
    | none =>
      let inner := { mode with isQuoted := mode.isQuoted || inQuotes }
      match inQuotes, part, rest with
      | false, .edge, .param ['@'] (.value false) _ :: .edge :: after =>
        let found ← param output fuel { mode with isQuoted := true } ['@'] (.value false) []
        let more ← parts output fuel mode false false after
        pure (found ++ more)
      | _, .edge, _ =>
        let more ← parts output fuel mode (!inQuotes) false rest
        pure (fixedRun [.edge] :: more)
      | _, .plain c, _ =>
        let more ← parts output fuel mode inQuotes (mode.isAssigned && c == ':') rest
        pure (consPlain mode inQuotes c (startsPlain rest) more)
      | _, .quoted c, _ =>
        let more ← parts output fuel mode inQuotes false rest
        pure (fixedRun [.char c true] :: more)
      | _, .param name use operand, _ =>
        let found ← param output fuel inner name use operand
        let more ← parts output fuel mode inQuotes false rest
        pure (found ++ more)
      | _, .output command, _ =>
        let text := cleanOutput (← output command)
        let more ← parts output fuel mode inQuotes false rest
        pure (⟨Field.ofText inner.isQuoted text, if inner.isQuoted then .never else .atSeparators⟩
          :: more)
      | _, .sum expression, _ =>
        let text ← parts output fuel .plain false false expression
        let value ← Arith.evaluate text.text
        let more ← parts output fuel mode inQuotes false rest
        pure (⟨Field.ofText inner.isQuoted (Arith.ofInt value),
          if inner.isQuoted then .never else .atSeparators⟩ :: more)

def param (output : Command → Act Text) : Nat → Mode → Text → ParamUse → Word → Act Expanded
  | 0, _, _, _, _ => pure []
  | fuel + 1, mode, name, use, operand => do
    let replace : Act Expanded :=
      parts output fuel { mode with isOperand := true } false true operand
    let found ← lookup mode name use
    let present (emptyToo : Bool) : Option Text :=
      if emptyToo then found.filter (· ≠ []) else found
    let give (value : Text) : Act Expanded := do
      pure [valueRun (← get) mode name value]
    match use with
    | .wrong => Act.fail "Bad substitution".toList
    | .value emptyToo =>
      match present emptyToo with
      | some value => give value
      | none =>
        requireSet name
        pure []
    | .length =>
      match found with
      | some value => give (Text.ofNat value.length)
      | none =>
        requireSet name
        give ['0']
    | .orElse emptyToo =>
      match present emptyToo with
      | some value => give value
      | none => replace
    | .ifPresent emptyToo =>
      match present emptyToo with
      | some _ => replace
      | none => give []
    | .orAssign emptyToo =>
      match present emptyToo with
      | some value => give value
      | none =>
        let text ← parts output fuel .plain false true operand
        assign name text.text
        match ← lookup mode name (.value false) with
        | some value => give value
        | none => pure []
    | .orFail emptyToo =>
      match present emptyToo with
      | some value => give value
      | none =>
        let text ← parts output fuel .plain false true operand
        missing name emptyToo (!operand.isEmpty) text.text
    | _ =>
      match found with
      | none =>
        requireSet name
        pure []
      | some value =>
        let pattern ← parts output fuel .plain false true operand
        give (trim use pattern.field value)

end

def wordFuel : Nat := 1000000

def single (output : Command → Act Text) (mode : Mode) (atTilde : Bool) (word : Word) :
    Act Text := do
  pure (← parts output wordFuel mode false atTilde word).text

def assigned (output : Command → Act Text) (word : Word) : Act Text :=
  single output .assigned true word

def pattern (output : Command → Act Text) (word : Word) : Act Field := do
  pure (← parts output wordFuel .plain false true word).field

def fields (output : Command → Act Text) (word : Word) : Act (List Text) := do
  let expanded ← parts output wordFuel .fields false true word
  let state ← get
  let cut := expanded.fields state.separators none
  if state.isOn .noglob then pure (cut.map Field.text)
  else pure (cut.flatMap (Glob.files state.disk))

def allFields (output : Command → Act Text) : List Word → Act (List Text)
  | [] => pure []
  | word :: rest => do
    let first ← fields output word
    pure (first ++ (← allFields output rest))

def prompt (output : Command → Act Text) (name : String) : Act Text := do
  let state ← get
  let value := state.value name
  match parsePrompt state.parseContext value with
  | .error _ => pure value
  | .ok word => single output .quoted false word

end Expand

end WorkerLint.Shell
