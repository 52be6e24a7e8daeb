import WorkerLint.Shell.Builtin.Variables

namespace WorkerLint.Shell.Builtin

structure Line where
  /-- What is read, in runs: characters after a backslash are never cut. -/
  runs : Expanded
  isComplete : Bool
  count : Nat
  deriving DecidableEq, Repr

def consRun (c : Char) (runs : Expanded) : Expanded :=
  match runs with
  | ⟨pieces, .atSeparators⟩ :: rest => ⟨.char c false :: pieces, .atSeparators⟩ :: rest
  | _ => ⟨[.char c false], .atSeparators⟩ :: runs

/-- The first line of a text. A backslash protects the character after it, unless all characters
are taken as they are; before the end of a line it joins the next one to it. -/
def lineOf (raw : Bool) : (escaped : Bool) → Text → Line
  | _, [] => ⟨[], false, 0⟩
  | escaped, c :: rest =>
    let count (line : Line) : Line := { line with count := line.count + 1 }
    if c = '\x00' then count (lineOf raw escaped rest)
    else if escaped then
      let line := count (lineOf raw false rest)
      -- The text before a backslash is cut on its own.
      let pieces : Expanded := if c = '\n' then [⟨[], .never⟩] else [⟨[.char c true], .never⟩]
      { line with runs := ⟨[], .atSeparators⟩ :: pieces ++ line.runs }
    else if c = '\\' ∧ ¬raw then count (lineOf raw true rest)
    else if c = '\n' then ⟨[], true, 1⟩
    else
      let line := count (lineOf raw false rest)
      { line with runs := consRun c line.runs }

def share : List Text → List Field → Act Unit
  | [], _ => pure ()
  | name :: rest, fields => do
    checkName name
    Act.setVariable name ((fields.head?.map Field.text).getD [])
    share rest fields.tail

def read : Builtin := fun args => do
  let given ← options "r" "p" args
  if given.rest.isEmpty then Act.fail "arg count".toList
  let state ← get
  let unread :=
    match state.process.opened? 0 with
    | some file =>
      match state.machine.unread file with
      | .ok text => text
      | .error _ => []
    | none => []
  let line := lineOf (given.has 'r') false unread
  match state.process.opened? 0 with
  | some file => set { state with machine := state.machine.consume file line.count }
  | none => pure ()
  share given.rest (line.runs.fields state.separators (some given.rest.length))
  pure (if line.isComplete then 0 else 1)

structure OptionStep where
  letter : Char
  value : Option Text
  note : Option Text
  word : Nat
  offset : Option Nat
  isLast : Bool
  deriving DecidableEq, Repr

def optionNeed? (letter : Char) : Text → Option Bool
  | [] => none
  | c :: ':' :: rest => if c = letter then some true else optionNeed? letter rest
  | c :: rest => if c = letter then some false else optionNeed? letter rest

def unknownOption (quiet : Bool) (letter : Char) (word : Nat) (offset : Option Nat) : OptionStep :=
  if quiet then ⟨'?', some [letter], none, word, offset, false⟩
  else ⟨'?', none, some ("Illegal option -".toList ++ [letter, '\n']), word, offset, false⟩

def optionStep (spec : Text) (words : List Text) (used : Nat) (letter : Char) (rest : Text)
    (offset : Nat) : OptionStep :=
  let quiet := spec.head? = some ':'
  let next := if rest = [] then none else some offset
  match optionNeed? letter (if quiet then spec.tail else spec) with
  | none => unknownOption quiet letter used (some offset)
  | some false => ⟨letter, some [], none, used, some offset, false⟩
  | some true =>
    if next.isSome then ⟨letter, some rest, none, used, none, false⟩
    else
      match words[used]? with
      | some value => ⟨letter, some value, none, used + 1, none, false⟩
      | none =>
        if quiet then ⟨':', some [letter], none, used, none, false⟩
        else
          ⟨'?', none, some ("No arg for -".toList ++ letter :: " option\n".toList), used, none,
            false⟩

/-- Reads the next option of some words; `used` of them have been used, and the last of those goes
on at `offset`. -/
def nextOption (spec : Text) (words : List Text) (used : Nat) (offset : Option Nat) :
    OptionStep :=
  let finish (used : Nat) : OptionStep := ⟨'?', none, none, used, none, true⟩
  let going : Option (Char × Text × Nat) :=
    match offset, words[used - 1]? with
    | some offset, some word =>
      if used = 0 then none
      else
        match word.drop offset with
        | letter :: rest => some (letter, rest, offset + 1)
        | [] => none
    | _, _ => none
  match going with
  | some (letter, rest, offset) => optionStep spec words used letter rest offset
  | none =>
    match words[used]? with
    | some ['-', '-'] => finish (used + 1)
    | some ('-' :: letter :: rest) => optionStep spec words (used + 1) letter rest 2
    | _ => finish used

def getopts : Builtin := fun args => do
  let given ← options "" "" args
  match given.rest with
  | spec :: name :: words =>
    let state ← get
    let words := if words.isEmpty then state.params else words
    let fits := state.optionWord ≤ words.length + 1
    let start := if fits then state.optionWord else 1
    let offset := if fits then state.optionLetter else none
    let step := nextOption spec words (start - 1) offset
    match step.note with
    | some note => Act.note note
    | none => pure ()
    if !step.isLast then
      match step.value with
      | some value => Act.setVariable "OPTARG".toList value
      | none => Act.unsetVariable "OPTARG".toList
    Act.setVariable "OPTIND".toList (Text.ofNat (step.word + 1))
    checkName name
    Act.setVariable name [step.letter]
    modify fun state =>
      { state with optionWord := step.word + 1, optionLetter := step.offset }
    pure (if step.isLast then 1 else 0)
  | _ => Act.fail "Usage: getopts optstring var [arg...]".toList

end WorkerLint.Shell.Builtin
