import WorkerLint.Shell.Builtin.Signals
import WorkerLint.Shell.Reading

namespace WorkerLint.Shell

def deliver : Act Unit := do
  let state ← get
  let id := state.process.id
  let machine := state.machine
  let mine := machine.signals.filter (·.1 = id)
  if !mine.isEmpty then
    set { state with machine := { machine with signals := machine.signals.filter (·.1 ≠ id) } }
    mine.forM fun (_, signal) => Builtin.receive signal

def actOn (exec : Exec) (status : Nat) : List Nat → Act Unit
  | [] => pure ()
  | signal :: rest => do
    let state ← get
    if state.skip = .nothing then
      match state.trap? signal with
      | some action =>
        discard (runText exec .plain action)
        modify fun state =>
          match state.skip with
          | .function _ => state
          | _ => { state with status }
      | none => pure ()
      actOn exec status rest
    else set { state with pending := state.pending ++ signal :: rest }

def actOnSignals (exec : Exec) : Act Unit := do
  deliver
  let state ← get
  if !state.pending.isEmpty && state.skip = .nothing then
    let status := state.kept.getD state.status
    set { state with kept := some status, pending := [] }
    actOn exec status (state.pending.mergeSort (· ≤ ·))
    modify fun after => { after with kept := state.kept }

/-- Runs the action for the end of the shell. Its status counts only if it ends the shell itself. -/
def runExitAction (exec : Exec) (action : Text) : Act Ending := do
  modify fun state =>
    { state with kept := some state.status, traps := state.traps.filter (·.1 ≠ 0) }
  match ← Act.attempt (runText exec .plain action) with
  | .ok _ =>
    let state ← get
    pure (.exited (state.kept.getD state.status))
  | .error (.killed signal) => pure (.killed signal)
  | .error _ => pure (.exited (← get).status)

def conclude (exec : Exec) (action : Act Unit) : Act Ending := do
  match ← Act.attempt action with
  | .error (.killed signal) => pure (.killed signal)
  | .error .replaced => pure (.exited (← get).status)
  | _ =>
    modify fun state =>
      { state with skip := .nothing, loops := 0, inPrompt := false, command := none }
    match (← get).trap? 0 with
    | some [] => pure (.exited (← get).status)
    | some action => runExitAction exec action
    | none => pure (.exited (← get).status)

end WorkerLint.Shell
