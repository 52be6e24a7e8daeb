import WorkerLint.Machine.Signal
import WorkerLint.Shell.Field
import WorkerLint.Shell.Parse

namespace WorkerLint.Shell

inductive Flag
  | errexit
  | noglob
  | ignoreeof
  | interactive
  | monitor
  | noexec
  | stdin
  | xtrace
  | verbose
  | vi
  | emacs
  | noclobber
  | allexport
  | notify
  | nounset
  | privileged
  | nolog
  | debug
  deriving DecidableEq, Repr

namespace Flag

def table : List (Flag × String × Option Char) :=
  [(.errexit, "errexit", some 'e'), (.noglob, "noglob", some 'f'),
    (.ignoreeof, "ignoreeof", some 'I'), (.interactive, "interactive", some 'i'),
    (.monitor, "monitor", some 'm'), (.noexec, "noexec", some 'n'), (.stdin, "stdin", some 's'),
    (.xtrace, "xtrace", some 'x'), (.verbose, "verbose", some 'v'), (.vi, "vi", some 'V'),
    (.emacs, "emacs", some 'E'), (.noclobber, "noclobber", some 'C'),
    (.allexport, "allexport", some 'a'), (.notify, "notify", some 'b'),
    (.nounset, "nounset", some 'u'), (.privileged, "privileged", some 'p'),
    (.nolog, "nolog", none), (.debug, "debug", none)]

def ofLetter? (letter : Char) : Option Flag :=
  (table.find? (·.2.2 = some letter)).map (·.1)

def ofName? (name : Text) : Option Flag :=
  (table.find? (·.2.1.toList = name)).map (·.1)

end Flag

structure Variable where
  value : Option Text
  isExported : Bool
  isReadonly : Bool
  deriving DecidableEq, Repr

inductive Saved
  | variable (name : Text) (old : Option Variable)
  | flags (old : List Flag)
  deriving DecidableEq, Repr

inductive Skip
  | nothing
  | loops (count : Nat) (again : Bool)
  | function (isGiven : Bool)
  deriving DecidableEq, Repr

structure Context where
  process : Process
  name : Text
  /-- The process that the shell was before it was copied. -/
  rootId : Nat
  params : List Text
  vars : List (Text × Variable)
  locals : List (List Saved)
  functions : List (Text × Command)
  aliases : List (Text × Text)
  flags : List Flag
  status : Nat
  outputStatus : Nat
  /-- The status that the shell had before it began to act on a signal or to end. -/
  kept : Option Nat
  skip : Skip
  loops : Nat
  calls : Nat
  line : Nat
  readLine : Nat
  command : Option Text
  traps : List (Nat × Text)
  pending : List Nat
  lastJob : Option Nat
  texts : List (Nat × Word)
  nextText : Nat
  remembered : List (Text × Text)
  stale : List Text
  optionWord : Nat
  optionLetter : Option Nat
  here : Text
  inPrompt : Bool
  mask : Nat
  printed : List Text

inductive JobState
  | waiting (command : Command) (context : Context)
  | done (status : Nat)
  | killed (signal : Nat)

structure Job where
  number : Nat
  id : Nat
  state : JobState
  isWaited : Bool

structure State extends Context where
  machine : Machine
  jobs : List Job

inductive Leap
  | failed
  | interrupted
  | ended
  | killed (signal : Nat)
  | replaced
  deriving DecidableEq, Repr

abbrev Act := ExceptT Leap (StateM State)

namespace State

def isOn (state : State) (flag : Flag) : Bool :=
  state.flags.contains flag

def setFlag (state : State) (flag : Flag) (on : Bool) : State :=
  let others := state.flags.filter (· ≠ flag)
  { state with flags := if on then flag :: others else others }

def var? (state : State) (name : Text) : Option Variable :=
  (state.vars.find? (·.1 == name)).map (·.2)

def value? (state : State) (name : Text) : Option Text :=
  (state.var? name).bind (·.value)

def value (state : State) (name : String) : Text :=
  (state.value? name.toList).getD []

def putVariable (state : State) (name : Text) (new : Option Variable) : State :=
  let others := state.vars.filter (·.1 != name)
  let vars :=
    match new with
    | some found => (name, found) :: others
    | none => others
  let state := { state with vars }
  if name = "PATH".toList then { state with remembered := [] }
  else if name = "OPTIND".toList then
    let digits := (new.bind (·.value)).getD []
    { state with optionWord := (Text.toWord? digits).getD 1, optionLetter := none }
  else state

def setValue (state : State) (name value : Text) : State :=
  let old := (state.var? name).getD ⟨none, false, false⟩
  let isExported := old.isExported || state.isOn .allexport
  state.putVariable name (some { old with value := some value, isExported })

def separators (state : State) : Text :=
  (state.value? "IFS".toList).getD standardSeparators

def trap? (state : State) (signal : Nat) : Option Text :=
  (state.traps.find? (·.1 = signal)).map (·.2)

def hasTraps (state : State) : Bool :=
  state.traps.any (·.2 != [])

def disk (state : State) : Disk :=
  state.machine.disk state.process

def environment (state : State) : List (Text × Text) :=
  state.vars.filterMap fun (name, found) =>
    match found.value with
    | some value => if found.isExported then some (name, value) else none
    | none => none

def parseContext (state : State) : ParseContext :=
  ⟨state.aliases, state.nextText⟩

end State

namespace Act

def leap (leap : Leap) : Act α :=
  throw leap

def attempt (action : Act α) : Act (Except Leap α) := fun state =>
  let (result, after) := action state
  (.ok result, after)

def write (fd : Nat) (text : Text) : Act Bool := do
  let state ← get
  match state.process.opened? fd with
  | none => pure false
  | some number =>
    match state.machine.write number text with
    | .ok machine =>
      set { state with machine }
      pure true
    | .error denial =>
      if denial = .brokenPipe ∧ 13 ∉ state.process.ignored then leap (.killed 13) else pure false

def note (text : Text) : Act Unit := do
  discard (write 2 text)

def print (text : Text) : Act Unit :=
  modify fun state => { state with printed := text :: state.printed }

def printLine (text : Text) : Act Unit :=
  print (text ++ ['\n'])

def messageStart : Act Text := do
  let state ← get
  let command :=
    match state.command with
    | some name => name ++ ": ".toList
    | none => []
  pure (state.name ++ ": ".toList ++ Text.ofNat state.line ++ ": ".toList ++ command)

def warn (message : Text) : Act Unit := do
  note ((← messageStart) ++ message ++ ['\n'])

def setStatus (status : Nat) : Act Unit :=
  modify fun state => { state with status }

def fail (message : Text) : Act α := do
  warn message
  setStatus 2
  leap .failed

def failSyntax (line : Nat) (message : Text) : Act α := do
  modify fun state => { state with line }
  fail ("Syntax error: ".toList ++ message)

def setVariable (name value : Text) : Act Unit := do
  let state ← get
  if ((state.var? name).map (·.isReadonly)).getD false then
    fail (name ++ ": is read only".toList)
  else if name = "OPTIND".toList ∧ (Text.toWord? value).isNone then
    fail ("Illegal number: ".toList ++ value)
  else set (state.setValue name value)

def unsetVariable (name : Text) : Act Unit := do
  let state ← get
  match state.var? name with
  | some found =>
    if found.isReadonly then fail (name ++ ": is read only".toList)
    else set (state.putVariable name none)
  | none => pure ()

def keepVariable (name : Text) : Act Unit :=
  modify fun state =>
    match state.locals with
    | frame :: rest =>
      { state with locals := (.variable name (state.var? name) :: frame) :: rest }
    | [] => state

def giveBack (saved : List Saved) : Act Unit :=
  modify fun state =>
    saved.foldl
      (fun (state : State) entry =>
        match entry with
        | .variable name old => state.putVariable name old
        | .flags flags => { state with flags })
      state

/-- Runs an action with a place for what is to be given back after it. An action that breaks off
gives nothing back. -/
def withLocals (action : Act α) : Act α := do
  let outer := (← get).locals
  modify fun state => { state with locals := [] :: state.locals }
  let result ← action
  let state ← get
  let mine := state.locals.take (state.locals.length - outer.length)
  set { state with locals := outer }
  giveBack mine.flatten
  pure result

end Act

end WorkerLint.Shell
