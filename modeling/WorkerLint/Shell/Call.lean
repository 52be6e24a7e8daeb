import WorkerLint.Shell.Builtin.Flow
import WorkerLint.Shell.Builtin.Input
import WorkerLint.Shell.Builtin.Names
import WorkerLint.Shell.Builtin.Print
import WorkerLint.Shell.Start

namespace WorkerLint.Shell

structure Call where
  passed : List Text
  fields : List Text
  left : List Word
  meaning : Meaning
  special : Option Bool
  path : Option Text

namespace Call

def firstFields (output : Command → Act Text) : List Word → Act (List Text × List Word)
  | [] => pure ([], [])
  | word :: rest => do
    match ← Expand.fields output word with
    | [] => firstFields output rest
    | fields => pure (fields, rest)

def fill (output : Command → Act Text) (call : Call) : Act Call := do
  match call.fields with
  | [_] =>
    let (more, left) ← firstFields output call.left
    pure { call with fields := call.fields ++ more, left }
  | _ => pure call

def pass (call : Call) : Call :=
  { call with passed := call.passed ++ call.fields.take 1, fields := call.fields.tail }

/-- Takes what stands before the command that another one is to run. There is none if options are
left that ask for something else. -/
def afterCommand (output : Command → Act Text) : Nat → Call → Act (Call × Bool)
  | 0, call => pure (call, false)
  | fuel + 1, call => do
    let call ← call.fill output
    match call.fields.tail with
    | [] => pure (call, false)
    | ['-', '-'] :: _ =>
      let call ← call.pass.fill output
      pure (if call.fields.tail = [] then (call, false) else (call.pass, true))
    | ('-' :: letter :: letters) :: _ =>
      if (letter :: letters).all (· = 'p') then
        afterCommand output fuel { call.pass with path := some Lookup.standardPath }
      else pure (call, false)
    | _ => pure (call.pass, true)

def words (call : Call) : List Text :=
  call.passed ++ call.fields

def resolve (output : Command → Act Text) : Nat → Bool → Call → Act Call
  | 0, _, call => pure call
  | fuel + 1, functions, call => do
    match call.fields with
    | [] => pure call
    | name :: _ =>
      let state ← get
      let path := call.path.getD (state.value "PATH")
      let meaning := Lookup.meaning state functions path name
      match meaning with
      | .builtin _ =>
        let call :=
          { call with meaning, special := some (call.special.getD (isSpecial name)) }
        if name = "command".toList then
          let (inner, found) ← afterCommand output (call.fields.length + call.left.length + 1) call
          if found then resolve output fuel false inner
          else
            pure { inner with
              passed := call.passed
              fields := inner.words.drop call.passed.length }
        else pure call
      | .program found =>
        Lookup.remember name found
        pure { call with meaning }
      | _ => pure { call with meaning }

def arguments (output : Command → Act Text) (assigning : Bool) : List Word → Act (List Text)
  | [] => pure []
  | word :: rest => do
    let first ←
      match if assigning then word.assignment? else none with
      | some (name, value) => do
        pure [name ++ '=' :: (← Expand.assigned output value)]
      | none => Expand.fields output word
    pure (first ++ (← arguments output assigning rest))

def ofWords (output : Command → Act Text) (words : List Word) : Act Call := do
  let (fields, left) ← firstFields output words
  let call ← resolve output (words.length + fields.length + 1) true
    ⟨[], fields, left, .unknown .noEntry, none, none⟩
  let assigning :=
    match call.meaning with
    | .builtin name => takesAssignments name
    | _ => false
  let more ← arguments output assigning call.left
  pure { call with fields := call.fields ++ more, left := [] }

def isLocal (call : Call) : Bool :=
  !call.fields.isEmpty && call.special != some true

def runsExec (call : Call) : Bool :=
  match call.meaning with
  | .builtin name => name == "exec".toList
  | _ => false

end Call

def assignAll (output : Command → Act Text) (isLocal exports : Bool) :
    List (Text × Word) → Act (List Text)
  | [] => pure []
  | (name, word) :: rest => do
    let value ← Expand.assigned output word
    if isLocal then Act.keepVariable name
    Act.setVariable name value
    if isLocal || exports then
      modify fun state =>
        state.putVariable name
          ((state.var? name).map fun found => { found with isExported := true })
    pure ((name ++ '=' :: value) :: (← assignAll output isLocal exports rest))

/-- Shows a command before it is run, if the shell is told to. It goes where messages went before
the redirections of the command. -/
def trace (output : Command → Act Text) (errors : Option Nat) (words : List Text) : Act Unit := do
  let state ← get
  if state.isOn .xtrace && !state.inPrompt then
    set { state with inPrompt := true }
    let prompt ← Expand.prompt output "PS4"
    modify fun state => { state with inPrompt := false }
    let text := prompt ++ Text.join [' '] words ++ ['\n']
    match errors with
    | none => pure ()
    | some number =>
      modify fun state =>
        match state.machine.write number text with
        | .ok machine => { state with machine }
        | .error _ => state

def launchOf (state : State) (process : Process) (words : List Text) : Launch where
  process := { process with ignored := ignoredSignals state }
  environment := state.environment
  name := words.headD []
  args := words.tail

def onMachine (action : StateM Machine α) : Act α := do
  let state ← get
  let (result, machine) := action state.machine
  set { state with machine }
  pure result

def denialStatus (denial : Denial) : Nat :=
  if denial = .noEntry ∨ denial = .notDirectory ∨ denial = .nameTooLong ∨ denial = .linkLoop then
    127
  else 126

def refuseProgram (name : Text) (denial : Denial) : Act Unit := do
  Act.warn (name ++ ": ".toList ++ Lookup.refusal denial)
  Act.setStatus (denialStatus denial)

def replaceBy (exec : Exec) (path : Text) (words : List Text) : Act Unit := do
  let state ← get
  match ← onMachine (Program.start (programs exec) path (launchOf state state.process words)) with
  | .ok (.exited status) =>
    Act.setStatus status
    Act.leap .replaced
  | .ok (.killed signal) => Act.leap (.killed signal)
  | .error denial =>
    refuseProgram (words.headD []) denial
    Act.leap .ended

def runProgram (exec : Exec) (path : Text) (words : List Text) : Act Unit := do
  discard claimNumber
  let state ← get
  let (process, machine) := state.machine.fork state.process
  set { state with machine }
  match ← onMachine (Program.start (programs exec) path (launchOf state process words)) with
  | .ok ending =>
    modify fun state => { state with machine := state.machine.reap process.id }
    Act.setStatus ending.status
    announce ending
  | .error denial =>
    modify fun state => { state with machine := state.machine.reap process.id }
    refuseProgram (words.headD []) denial

def maxCalls : Nat := 1000

def callFunction (exec : Exec) (manner : Manner) (body : Command) (params : List Text) :
    Act Unit := do
  let before ← get
  if maxCalls ≤ before.calls then
    Act.fail "Maximum function recursion depth (1000) reached".toList
  set { before with
    params, loops := 0, calls := before.calls + 1, optionWord := 1, optionLetter := none }
  let result ← Act.attempt (exec manner.staying body)
  modify fun state =>
    { state with
      params := before.params
      loops := before.loops
      calls := before.calls
      optionWord := before.optionWord
      optionLetter := before.optionLetter
      skip :=
        match state.skip with
        | .function _ => .nothing
        | skip => skip }
  match result with
  | .ok _ => pure ()
  | .error leap => Act.leap leap

namespace Builtin

def eval (exec : Exec) (manner : Manner) : Builtin := fun args => do
  if args.isEmpty then pure 0 else runText exec manner.staying (Text.join [' '] args)

def source (exec : Exec) : Builtin := fun args => do
  let given ← options "" "" args
  match given.rest with
  | [] => pure 0
  | name :: _ =>
    let state ← get
    let path ←
      if name.elem '/' then pure name
      else
        match Lookup.fileOnPath? state (state.value "PATH") name with
        | some path => pure path
        | none => Act.fail (name ++ ": not found".toList)
    let text ← openCommands path
    modify fun state => { state with command := some path }
    runFile exec .silent text

def replace (exec : Exec) : Builtin := fun args => do
  match args with
  | [] => pure 0
  | name :: _ =>
    let state ← get
    match if name.elem '/' then .ok name else Lookup.onPath state (state.value "PATH") name with
    | .ok path => replaceBy exec path args
    | .error denial =>
      refuseProgram name denial
      Act.leap .ended
    pure 0

def named (exec : Exec) (manner : Manner) (name : Text) : Builtin :=
  match String.ofList name with
  | "." => source exec
  | "[" => bracketTest
  | "alias" => aliasing
  | "bg" => foreground
  | "break" => leaveLoops false
  | "cd" => cd
  | "chdir" => cd
  | "command" => commandQuery
  | "continue" => leaveLoops true
  | "echo" => echo
  | "eval" => eval exec manner
  | "exec" => replace exec
  | "exit" => leaveShell
  | "export" => exporting
  | "false" => ending 1
  | "fg" => foreground
  | "getopts" => getopts
  | "hash" => hash
  | "jobs" => jobs
  | "kill" => kill
  | "local" => localizing
  | "printf" => printf
  | "pwd" => pwd
  | "read" => read
  | "readonly" => protecting
  | "return" => leaveFunction
  | "set" => setting
  | "shift" => shift
  | "test" => test
  | "times" => times
  | "trap" => trap
  | "type" => type
  | "ulimit" => ulimit
  | "umask" => umask
  | "unalias" => unalias
  | "unset" => unset
  | "wait" => wait exec
  | _ => ending 0

end Builtin

def runBuiltin (exec : Exec) (manner : Manner) (isSpecial : Bool) (name : Text)
    (args : List Text) : Act Unit := do
  let outer := (← get).command
  modify fun state => { state with command := some name }
  let result ← Act.attempt do
    let status ← Builtin.named exec manner name args
    let fits ← flush
    if !fits then Act.warn ((← get).command.getD name ++ ": I/O error".toList)
    Act.setStatus (if fits then status else status ||| 1)
  modify fun state => { state with command := outer, printed := [] }
  match result with
  | .ok _ => pure ()
  | .error leap => if leap = .failed ∧ !isSpecial then pure () else Act.leap leap

def perform (exec : Exec) (manner : Manner) (call : Call) : Act Unit := do
  match call.fields with
  | [] => Act.setStatus (← get).outputStatus
  | name :: args =>
    match call.meaning with
    | .unknown denial =>
      Act.warn (name ++ ": ".toList ++ Lookup.refusal denial)
      Act.setStatus 127
    | .program path =>
      if manner.exits && !(← get).hasTraps then replaceBy exec path call.fields
      else runProgram exec path call.fields
    | .builtin name => runBuiltin exec manner (call.special == some true) name args
    | .function body => callFunction exec manner body args

/-- Carries out redirections, then an action, and undoes the redirections. Some faults in them are
over with the command. -/
def redirecting (exec : Exec) (openings : List Opening) (keeps isSpecial : Bool)
    (action : Act Unit) : Act Unit := do
  let before := Redirect.before (← get) openings
  match ← Act.attempt (Redirect.performAll (outputOf exec) openings) with
  | .error .failed =>
    Redirect.restore before
    if isSpecial then Act.leap .failed
  | .error leap => Act.leap leap
  | .ok _ =>
    match ← Act.attempt action with
    | .ok _ => if !keeps then Redirect.restore before
    | .error leap =>
      Redirect.restore before
      Act.leap leap

def runSimple (exec : Exec) (manner : Manner) (line : Nat) (assigns : List (Text × Word))
    (words : List Word) (redirects : List Redirect) : Act Unit := do
  modify fun state => { state with line, outputStatus := 0 }
  let output := outputOf exec
  let call ← Call.ofWords output words
  let openings ← Redirect.expand output redirects
  let errors := (← get).process.opened? 2
  let body : Act Unit :=
    redirecting exec openings call.runsExec (call.special == some true) do
      let exports := call.runsExec && 1 < call.fields.length
      let assigned ← assignAll output call.isLocal exports assigns
      trace output errors (assigned ++ call.words)
      perform exec manner call
  if call.isLocal then Act.withLocals body else body

end WorkerLint.Shell
