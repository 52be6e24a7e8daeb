import WorkerLint.Shell.Call

namespace WorkerLint.Shell

def loopFuel : Nat := 100000000

/-- A loop looks at what is to be passed over: loops that are left are counted down. Gives what was
to be passed over. -/
def leaveLoop : Act Skip := do
  let state ← get
  match state.skip with
  | .loops count again =>
    if count ≤ 1 then
      set { state with skip := .nothing }
      pure (.loops count again)
    else
      set { state with skip := .loops (count - 1) again }
      pure (.loops count false)
  | skip => pure skip

namespace Skip

def endsLoop : Skip → Bool
  | .nothing => false
  | .loops _ again => !again
  | .function _ => true

end Skip

def loopWhile (exec : Exec) (manner : Manner) (whileFailing : Bool) (condition body : Command) :
    Nat → Nat → Act Nat
  | 0, status => pure status
  | fuel + 1, status => do
    exec .tested condition
    let holds := ((← get).status = 0) != whileFailing
    match ← leaveLoop with
    | .nothing =>
      if holds then
        exec manner body
        let status := (← get).status
        if (← leaveLoop).endsLoop then pure status
        else loopWhile exec manner whileFailing condition body fuel status
      else pure status
    | skip =>
      let reached := (← get).status
      let status :=
        match skip with
        | .function _ => reached
        | _ => status
      if skip.endsLoop then pure status
      else loopWhile exec manner whileFailing condition body fuel status

def loopFor (exec : Exec) (manner : Manner) (name : Text) (body : Command) :
    List Text → Nat → Act Nat
  | [], status => pure status
  | item :: rest, _ => do
    Act.setVariable name item
    exec manner body
    let status := (← get).status
    if (← leaveLoop).endsLoop then pure status else loopFor exec manner name body rest status

def inLoop (action : Act α) : Act α := do
  modify fun state => { state with loops := state.loops + 1 }
  let result ← action
  modify fun state => { state with loops := state.loops - 1 }
  pure result

def matchesAny (output : Command → Act Text) (subject : Text) : List Word → Act Bool
  | [] => pure false
  | pattern :: rest => do
    let field ← Expand.pattern output pattern
    if Glob.accepts (Glob.items (Glob.glyphs field)) subject then pure true
    else matchesAny output subject rest

def selectArm (exec : Exec) (manner : Manner) (subject : Text) :
    List (List Word × Command) → Act Unit
  | [] => Act.setStatus 0
  | (patterns, body) :: rest => do
    if ← matchesAny (outputOf exec) subject patterns then
      if body.isNothing then Act.setStatus 0 else exec manner body
    else selectArm exec manner subject rest

def lookAhead : Command → Act Unit
  | .simple _ _ (word :: _) _ => do
    match Word.bare? word with
    | some name =>
      if isName name then
        let state ← get
        match Lookup.meaning state true (state.value "PATH") name with
        | .program found => Lookup.remember name found
        | _ => pure ()
    | none => pure ()
  | _ => pure ()

/-- A stage that writes more often than this is taken for one that writes until nobody reads any
more. -/
def stageRoom : Nat := 100000

def runStages (exec : Exec) (manner : Manner) : Option Nat → List Command → Act (List Ending)
  | _, [] => pure []
  | input, stage :: rest => do
    lookAhead stage
    let (reading, writing, machine) := (← get).machine.makePipe (some stageRoom)
    modify fun state => { state with machine }
    let change (process : Process) : Process :=
      let process := (input.map (process.connect 0 ·)).getD process
      if rest.isEmpty then process else process.connect 1 writing
    let ending ← inCopy exec change (exec { manner with exits := true } stage)
    pure (ending :: (← runStages exec manner (some reading) rest))

def runPipe (exec : Exec) (manner : Manner) (stages : List Command) : Act Unit := do
  discard claimNumber
  let endings ← runStages exec manner none stages
  Act.setStatus ((endings.getLast?.map Ending.status).getD 0)
  endings.forM announce

def runSubshell (exec : Exec) (manner : Manner) (line : Nat) (body : Command)
    (redirects : List Redirect) (background : Bool) : Act Unit := do
  modify fun state => { state with line }
  let openings ← Redirect.expand (outputOf exec) redirects
  let inner : Act Unit := do
    Redirect.performAll (outputOf exec) openings
    exec { manner with exits := true } body
  if background then startJob exec openings body
  else if manner.exits && !(← get).hasTraps then inner
  else
    discard claimNumber
    let ending ← inCopy exec id inner
    Act.setStatus ending.status
    announce ending

def defineFunction (name : Text) (body : Command) : Act Unit :=
  modify fun state =>
    { state with
      functions := (name, body) :: state.functions.filter (·.1 != name)
      remembered := state.remembered.filter (·.1 != name)
      status := 0 }

def dispatch (exec : Exec) (manner : Manner) : Command → Act Unit
  | .nothing => pure ()
  | .simple line assigns words redirects => runSimple exec manner line assigns words redirects
  | .redirected line command redirects => do
    modify fun state => { state with line }
    let openings ← Redirect.expand (outputOf exec) redirects
    redirecting exec openings false false (exec manner.staying command)
  | .pipe stages background =>
    if background then startJob exec [] (.pipe stages false) else runPipe exec manner stages
  | .both left right => do
    exec .tested left
    let state ← get
    if state.status = 0 && state.skip = .nothing then exec manner right
  | .either left right => do
    exec .tested left
    let state ← get
    if state.status != 0 && state.skip = .nothing then exec manner right
  | .negated command => do
    exec .tested command
    modify fun state =>
      if state.skip = .nothing then { state with status := if state.status = 0 then 1 else 0 }
      else state
  | .sequence left right => do
    exec manner.staying left
    if (← get).skip = .nothing then exec manner right
  | .subshell line body redirects background =>
    runSubshell exec manner line body redirects background
  | .branch condition yes no => do
    exec .tested condition
    let state ← get
    if state.skip = .nothing then
      if state.status = 0 then exec manner yes
      else if no.isNothing then Act.setStatus 0
      else exec manner no
  | .repeated whileFailing condition body => do
    let status ← inLoop (loopWhile exec manner.staying whileFailing condition body loopFuel 0)
    Act.setStatus status
  | .forEach line name items body => do
    modify fun state => { state with line }
    let texts ← Expand.allFields (outputOf exec) items
    let status ← inLoop (loopFor exec manner.staying name body texts 0)
    Act.setStatus status
  | .select line subject arms => do
    modify fun state => { state with line }
    let text ← Expand.single (outputOf exec) .plain true subject
    selectArm exec manner text arms
  | .define _ name body => defineFunction name body

def isChecked : Command → Bool
  | .simple _ _ _ _ => true
  | .subshell _ _ _ _ => true
  | .pipe _ _ => true
  | _ => false

def run (exec : Exec) (manner : Manner) (command : Command) : Act Unit := do
  let idle := (← get).isOn .noexec
  if !idle && !command.isNothing then
    actOnSignals exec
    dispatch exec manner command
  let failed := !idle && isChecked command && !manner.isTested && (← get).status != 0
  actOnSignals exec
  if manner.exits || (failed && (← get).isOn .errexit) then Act.leap .ended

def execWithin : Nat → Exec
  | 0, _, _ => pure ()
  | depth + 1, manner, command => run (execWithin depth) manner command

def maxDepth : Nat := 1000000

def exec : Exec :=
  execWithin maxDepth

end WorkerLint.Shell
