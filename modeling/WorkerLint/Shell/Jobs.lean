import WorkerLint.Machine.Program
import WorkerLint.Shell.Redirect
import WorkerLint.Shell.Traps

/-! Copies of the shell: those that are waited for, and jobs that run beside it. A job does not
begin before something waits for it, or the shell has ended. -/

namespace WorkerLint.Shell

def ignoredSignals (state : State) : List Nat :=
  state.process.ignored ++ (state.traps.filter (·.2 = [])).map (·.1)

def State.copied (state : State) (process : Process) : Context :=
  { state.toContext with
    process
    traps := state.traps.filter (·.2 = [])
    pending := []
    printed := [] }

def runShell (exec : Exec) (context : Context) (action : Act Unit) (machine : Machine) :
    Ending × List Job × Machine :=
  let (result, after) := conclude exec action ⟨context, machine, []⟩
  let ending :=
    match result with
    | .ok ending => ending
    | .error _ => .exited after.status
  (ending, after.jobs, after.machine.reap context.process.id)

def runJobs (exec : Exec) : Nat → List Job → Machine → Machine
  | 0, _, machine => machine
  | _, [], machine => machine
  | fuel + 1, job :: rest, machine =>
    match job.state with
    | .waiting command context =>
      let (_, left, machine) := runShell exec context (exec .last command) machine
      runJobs exec fuel (rest ++ left.reverse) machine
    | _ => runJobs exec fuel rest machine

def jobFuel : Nat := 10000

def runWhole (exec : Exec) (context : Context) (action : Act Unit) (machine : Machine) :
    Ending × Machine :=
  let (ending, left, machine) := runShell exec context action machine
  (ending, runJobs exec jobFuel left.reverse machine)

def inCopy (exec : Exec) (change : Process → Process) (action : Act Unit) : Act Ending := do
  let state ← get
  let (process, machine) := state.machine.fork state.process
  let (ending, machine) := runWhole exec (state.copied (change process)) action machine
  set { state with machine }
  pure ending

def announce (ending : Ending) : Act Unit := do
  if ending.announcement ≠ [] then Act.note ending.announcement
  deliver

def outputOf (exec : Exec) (command : Command) : Act Text := do
  if command.isNothing then pure []
  else
    let (reading, writing, machine) := (← get).machine.makePipe none
    modify fun state => { state with machine }
    let ending ← inCopy exec (·.connect 1 writing) (exec .last command)
    let machine := (← get).machine
    let text :=
      match machine.unread reading with
      | .ok text => text
      | .error _ => []
    modify fun state => { state with outputStatus := ending.status }
    announce ending
    pure text

namespace Job

def isRunning (job : Job) : Bool :=
  match job.state with
  | .waiting _ _ => true
  | _ => false

def shown (job : Job) : Text :=
  match job.state with
  | .waiting _ _ => "Running".toList
  | .done 0 => "Done".toList
  | .done status => "Done(".toList ++ Text.ofNat status ++ [')']
  | .killed signal => Signal.description signal

end Job

/-- The number for a new job. A job that was waited for gives its number up. -/
def claimNumber : Act Nat := do
  let state ← get
  let isFree (number : Nat) : Bool :=
    match state.jobs.find? (·.number = number) with
    | some job => !job.isRunning && job.isWaited
    | none => true
  let number := ((List.range (state.jobs.length + 1)).map (· + 1)).find? isFree |>.getD 1
  set { state with jobs := state.jobs.filter (·.number ≠ number) }
  pure number

def detached (process : Process) : Act Process := do
  let state ← get
  let (file, machine) := state.machine.addOpen ⟨.special .null, 0, true, false, false⟩
  set { state with machine }
  pure { process.connect 0 file with ignored := 2 :: 3 :: process.ignored }

def startJob (exec : Exec) (openings : List Opening) (body : Command) : Act Unit := do
  let number ← claimNumber
  let state ← get
  let (process, machine) := state.machine.fork state.process
  set { state with machine }
  let process ← detached process
  let state ← get
  let (result, after) :=
    Redirect.performAll (outputOf exec) openings ⟨state.copied process, state.machine, []⟩
  let jobState : JobState :=
    match result with
    | .ok _ => .waiting body after.toContext
    | .error (.killed signal) => .killed signal
    | .error _ => .done after.status
  let job : Job := ⟨number, process.id, jobState, false⟩
  set { state with
    machine := if job.isRunning then after.machine else after.machine.reap process.id
    jobs := job :: state.jobs
    lastJob := some process.id
    status := 0 }

def changeJob (id : Nat) (change : Job → Job) : Act Unit :=
  modify fun state =>
    { state with jobs := state.jobs.map fun job => if job.id = id then change job else job }

def finishJob (exec : Exec) (job : Job) : Act Ending := do
  match job.state with
  | .waiting command context =>
    let state ← get
    let (ending, machine) := runWhole exec context (exec .last command) state.machine
    set { state with machine }
    let jobState : JobState :=
      match ending with
      | .exited _ => .done ending.status
      | .killed signal => .killed signal
    changeJob job.id fun job => { job with state := jobState }
    pure ending
  | .done status => pure (.exited status)
  | .killed signal => pure (.killed signal)

namespace Builtin

def jobOf (word : Text) : Act Job := do
  let state ← get
  let wanted (job : Job) : Bool := '%' :: Text.ofNat job.number == word
  let isCurrent := ["%", "%%", "%+"].any (·.toList == word)
  match if isCurrent then state.jobs.head? else state.jobs.find? wanted with
  | some job => pure job
  | none =>
    if isCurrent then Act.fail "No current job".toList
    else Act.fail ("No such job: ".toList ++ word)

def lastPending : Act (Option Nat) := do
  pure (← get).pending.getLast?

def waitForAll (exec : Exec) : List Job → Act Nat
  | [] => pure 0
  | job :: rest => do
    if job.isRunning then discard (finishJob exec job)
    changeJob job.id fun job => { job with isWaited := true }
    deliver
    match ← lastPending with
    | some signal => pure (128 + signal)
    | none => waitForAll exec rest

def waitForEach (exec : Exec) : List Text → Nat → Act Nat
  | [], status => pure status
  | word :: rest, status => do
    let found ←
      match word with
      | '%' :: _ => some <$> jobOf word
      | _ => do
        let id ← number word
        pure ((← get).jobs.find? (·.id = id))
    match found with
    | none => waitForEach exec rest status
    | some job =>
      let ending ← finishJob exec job
      if job.isRunning then announce ending
      match ← lastPending with
      | some signal => pure (128 + signal)
      | none =>
        changeJob job.id fun job => { job with isWaited := true }
        waitForEach exec rest ending.status

def wait (exec : Exec) : Builtin := fun args => do
  let given ← options "" "" args
  if given.rest.isEmpty then waitForAll exec (← get).jobs.reverse
  else waitForEach exec given.rest 127

def jobLine (jobs : List Job) (job : Job) (withId : Bool) : Text :=
  let sign :=
    if (jobs.head?.map (·.id)) == some job.id then '+'
    else if (jobs[1]?.map (·.id)) == some job.id then '-'
    else ' '
  let id := if withId then Text.ofNat job.id ++ [' '] else []
  let line := '[' :: Text.ofNat job.number ++ [']', ' ', sign, ' '] ++ id ++ job.shown
  line ++ List.replicate (33 - line.length) ' ' ++ ['\n']

def showJobs (onlyId withId : Bool) : List Job → Act Unit
  | [] => pure ()
  | job :: rest => do
    let state ← get
    Act.print (if onlyId then Text.ofNat job.id ++ ['\n'] else jobLine state.jobs job withId)
    if !job.isRunning then set { state with
      jobs := state.jobs.filter (·.id ≠ job.id)
      printed := (← get).printed }
    showJobs onlyId withId rest

def jobs : Builtin := fun args => do
  let given ← options "lp" "" args
  let last := (given.options.getLast?).map (·.1)
  let chosen ←
    if given.rest.isEmpty then do pure (← get).jobs
    else given.rest.mapM jobOf
  showJobs (last == some 'p') (last == some 'l') chosen
  pure 0

def foreground : Builtin := fun args => do
  let given ← options "" "" args
  let job ← jobOf (given.rest.head?.getD ['%', '%'])
  Act.fail ("job ".toList ++ Text.ofNat job.number ++ " not created under job control".toList)

end Builtin

end WorkerLint.Shell
