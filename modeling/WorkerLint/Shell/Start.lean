import WorkerLint.Shell.Builtin.Directory
import WorkerLint.Shell.Builtin.Variables
import WorkerLint.Shell.Jobs
import WorkerLint.Tool.Cat
import WorkerLint.Tool.Grep
import WorkerLint.Tool.Plain

/-! The shell as a program, among the other programs there are. -/

namespace WorkerLint.Shell

def standardVariables (process : Process) : List (String × Text) :=
  [("IFS", standardSeparators), ("OPTIND", ['1']), ("PPID", Text.ofNat process.parent),
    ("PS1", "# ".toList), ("PS2", "> ".toList), ("PS4", "+ ".toList)]

def startVariables (process : Process) (environment : List (Text × Text)) :
    List (Text × Variable) :=
  let given := environment.filter fun (name, _) => isName name
  let own := (standardVariables process).map fun (name, value) => (name.toList, value)
  let fixed := ["IFS".toList, "OPTIND".toList, "PPID".toList]
  let kept := given.filter fun (name, _) => !fixed.contains name
  let rest := own.filter fun (name, _) => !kept.any (·.1 == name)
  kept.map (fun (name, value) => (name, ⟨some value, true, false⟩)) ++
    rest.map fun (name, value) => (name, ⟨some value, false, false⟩)

def startContext (launch : Launch) : Context :=
  let process := launch.process
  let here := Builtin.pathOfPlace process.here
  let vars := (startVariables process launch.environment).filter (·.1 != "PWD".toList)
  { process
    name := launch.name
    rootId := process.id
    params := []
    vars := ("PWD".toList, ⟨some here, launch.environment.any (·.1 == "PWD".toList), false⟩) :: vars
    locals := []
    functions := []
    aliases := []
    flags := []
    status := 0
    outputStatus := 0
    kept := none
    skip := .nothing
    loops := 0
    calls := 0
    line := 0
    readLine := 1
    command := none
    traps := []
    pending := []
    lastJob := none
    texts := []
    nextText := 0
    remembered := []
    stale := []
    optionWord := 1
    optionLetter := none
    here
    inPrompt := false
    mask := 0o22
    printed := [] }

def startLetters (on : Bool) : Text → List Text → Act (Bool × List Text)
  | [], rest => pure (false, rest)
  | 'c' :: more, rest => do
    let (_, rest) ← startLetters on more rest
    pure (true, rest)
  | 'l' :: more, rest => startLetters on more rest
  | 'o' :: more, rest => do
    Builtin.setNamed rest.head? on
    startLetters on more rest.tail
  | letter :: more, rest => do
    Builtin.setLetter letter on
    startLetters on more rest

def startOptions : Nat → Bool → List Text → Act (Bool × List Text)
  | 0, ofText, args => pure (ofText, args)
  | fuel + 1, ofText, args => do
    match args with
    | ['-'] :: rest => pure (ofText, rest)
    | ['-', '-'] :: rest => pure (ofText, rest)
    | ('-' :: letters) :: rest =>
      let (also, rest) ← startLetters true letters rest
      startOptions fuel (ofText || also) rest
    | ('+' :: letters) :: rest =>
      let (also, rest) ← startLetters false letters rest
      startOptions fuel (ofText || also) rest
    | _ => pure (ofText, args)

def flush : Act Bool := do
  let text := (← get).printed.reverse.flatten
  modify fun state => { state with printed := [] }
  if text = [] then pure true else Act.write 1 text

def takeAll (number : Nat) : Act Text := do
  let state ← get
  match state.machine.unread number with
  | .ok text =>
    set { state with machine := state.machine.consume number text.length }
    pure text
  | .error _ => pure []

def openCommands (name : Text) : Act Text := do
  let state ← get
  match state.machine.openFile state.process .read name with
  | .ok (number, machine) =>
    set { state with machine }
    takeAll number
  | .error denial => Act.fail (Redirect.refusal .read name denial)

def inputCommands : Act Text := do
  match (← get).process.opened? 0 with
  | some number => takeAll number
  | none => pure []

def settleFlags : Act Unit := do
  modify fun state => if state.isOn .interactive then state.setFlag .monitor true else state
  Builtin.checkJobControl

def showPrompt (exec : Exec) (name : String) : Act Unit := do
  if (← get).isOn .interactive then Act.note (← Expand.prompt (outputOf exec) name)

def prompts (exec : Exec) : Prompts where
  command := showPrompt exec "PS1"
  line := showPrompt exec "PS2"
  finish := do if (← get).isOn .interactive then Act.note ['\n']

def recovering (exec : Exec) : Nat → Act Unit → Act Unit
  | 0, action => action
  | fuel + 1, action => do
    match ← Act.attempt action with
    | .ok _ => pure ()
    | .error leap =>
      if (leap = .failed || leap = .interrupted) && (← get).isOn .interactive then
        modify fun state =>
          { state with
            skip := .nothing, loops := 0, calls := 0, inPrompt := false, command := none }
        let text ← inputCommands
        recovering exec fuel (discard (runFile exec (prompts exec) text))
      else Act.leap leap

/-- Nothing is left to read after the second failure. -/
def maxFailures : Nat := 3

def mainAction (exec : Exec) (args : List Text) : Act Unit := do
  let (ofText, rest) ← startOptions (args.length + 1) false args
  discard flush
  let runCommands (text : Text) : Act Unit := discard (runFile exec (prompts exec) text)
  match ofText, rest with
  | true, [] => Act.fail "-c requires an argument".toList
  | true, text :: rest =>
    modify fun state => { state with name := rest.head?.getD state.name, params := rest.tail }
    settleFlags
    let goesOn := (← get).isOn .stdin
    recovering exec maxFailures do
      discard (runText exec ⟨!goesOn, false⟩ text)
      if goesOn then runCommands (← inputCommands)
  | false, rest =>
    match (← get).isOn .stdin, rest with
    | false, file :: params =>
      let text ← openCommands file
      modify fun state => { state with name := file, params }
      settleFlags
      recovering exec maxFailures (runCommands text)
    | _, params =>
      modify fun state => { state.setFlag .stdin true with params }
      settleFlags
      let text ← inputCommands
      recovering exec maxFailures (runCommands text)

def program (exec : Exec) : Program := fun launch machine =>
  runWhole exec (startContext launch) (mainAction exec launch.args) machine

def programs (exec : Exec) (name : Text) : Option Program :=
  match String.ofList name with
  | "sh" => some (program exec)
  | "cat" => some Tool.Cat.program
  | "grep" => some Tool.Grep.program
  | "printf" => some Tool.printf
  | "true" => some (Tool.ending 0)
  | "false" => some (Tool.ending 1)
  | _ => none

end WorkerLint.Shell
