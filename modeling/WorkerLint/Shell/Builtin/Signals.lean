import WorkerLint.Shell.Builtin.Arguments

namespace WorkerLint.Shell.Builtin

def signalNumber? (word : Text) : Option Nat :=
  if word ≠ [] ∧ word.all Char.isDigit ∧ Text.digitsValue word < Signal.count then
    some (Text.digitsValue word)
  else none

/-- A signal by its number or its name; `least` is the first that has a name. -/
def signal? (least : Nat) (word : Text) : Option Nat :=
  match signalNumber? word with
  | some number => some number
  | none =>
    let wanted := word.map Char.toUpper
    ((List.range Signal.count).drop least).find? fun number => Signal.name number == wanted

def isFixedSignal (state : State) (signal : Nat) : Bool :=
  state.process.ignored.contains signal

def setTrap (signal : Nat) (action : Option Text) : Act Unit :=
  modify fun state =>
    let others := state.traps.filter (·.1 ≠ signal)
    { state with traps := action.toList.map (signal, ·) ++ others }

def setTraps (action : Option Text) : List Text → Act Nat
  | [] => pure 0
  | word :: rest => do
    match signal? 0 word with
    | some signal =>
      setTrap signal action
      setTraps action rest
    | none =>
      Act.note ("trap: ".toList ++ word ++ ": bad trap\n".toList)
      pure 1

def trap : Builtin := fun args => do
  let given ← options "" "" args
  match given.rest with
  | [] =>
    let state ← get
    Act.print ((List.range Signal.count).flatMap fun signal =>
      match state.trap? signal with
      | some action =>
        "trap -- ".toList ++ quote action ++ ' ' :: Signal.name signal ++ ['\n']
      | none => [])
    pure 0
  | [word] => setTraps none [word]
  | action :: rest =>
    if (signalNumber? action).isSome then setTraps none given.rest
    else setTraps (if action = ['-'] then none else some action) rest

def killUsage : Text :=
  "Usage: kill [-s sigspec | -signum | -sigspec] [pid | job]... or\nkill -l [exitstatus]".toList

def receive (signal : Nat) : Act Unit := do
  let state ← get
  if isFixedSignal state signal then pure ()
  else
    match state.trap? signal with
    | some [] => if signal = 9 then Act.leap (.killed signal)
    | some _ =>
      if signal = 9 then Act.leap (.killed signal)
      else if state.pending.contains signal then pure ()
      else set { state with pending := state.pending ++ [signal] }
    | none =>
      let talks := state.isOn .interactive && state.process.id = state.rootId
      if Signal.isHarmless signal || talks && (signal = 3 || signal = 15) then pure ()
      else if talks && signal = 2 then
        Act.note ['\n']
        Act.setStatus 130
        Act.leap .interrupted
      else Act.leap (.killed signal)

def send (signal target : Nat) : Act Bool := do
  let state ← get
  if target = state.process.id then
    receive signal
    pure true
  else if state.machine.running.contains target then
    let machine := state.machine
    set { state with machine := { machine with signals := machine.signals ++ [(target, signal)] } }
    pure true
  else pure false

def target (word : Text) : Act Nat := do
  match word with
  | '%' :: rest =>
    match (← get).jobs.find? fun job => Text.ofNat job.number == rest with
    | some job => pure job.id
    | none => Act.fail ("No such job: ".toList ++ word)
  | _ => number word

def sendAll (signal : Nat) : List Text → Act Nat
  | [] => pure 0
  | word :: rest => do
    let sent ← send signal (← target word)
    if !sent then Act.warn "No such process\n".toList
    let others ← sendAll signal rest
    pure (if sent then others else 1)

def listSignals (words : List Text) : Act Nat := do
  match words with
  | [] =>
    Act.print (List.flatten ("0\n".toList ::
      ((List.range Signal.count).drop 1).map fun signal => Signal.name signal ++ ['\n']))
    pure 0
  | word :: _ =>
    let status ← number word
    let signal := if 128 < status then status - 128 else status
    if 0 < signal ∧ signal < Signal.count then
      Act.printLine (Signal.name signal)
      pure 0
    else Act.fail ("invalid signal number or exit status: ".toList ++ word)

def kill : Builtin := fun args => do
  match args with
  | [] => Act.fail killUsage
  | ('-' :: name) :: rest =>
    match signal? 1 name with
    | some signal => if rest = [] then Act.fail killUsage else sendAll signal rest
    | none =>
      let given ← options "l" "s" args
      let chosen ← (given.options.filter (·.1 = 's')).mapM fun (_, name) =>
        match signal? 1 name with
        | some signal => pure signal
        | none => Act.fail ("invalid signal number or name: ".toList ++ name)
      if given.has 'l' then
        if chosen = [] then listSignals given.rest else Act.fail killUsage
      else if given.rest = [] then Act.fail killUsage
      else sendAll (chosen.getLast?.getD 15) given.rest
  | _ => sendAll 15 args

end WorkerLint.Shell.Builtin
