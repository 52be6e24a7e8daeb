import WorkerLint.Shell.Builtin.Arguments
import WorkerLint.Shell.Test

namespace WorkerLint.Shell.Builtin

def leaveLoops (again : Bool) : Builtin := fun args => do
  let count ←
    match args with
    | [] => pure 1
    | word :: _ =>
      let count ← number word
      if count = 0 then Act.fail ("Illegal number: ".toList ++ word)
      pure count
  modify fun state =>
    if state.loops = 0 then state
    else { state with skip := .loops (min count state.loops) again }
  pure 0

def leaveFunction : Builtin := fun args => do
  match args with
  | [] =>
    modify fun state => { state with skip := .function false }
    pure (← get).status
  | word :: _ =>
    let status ← number word
    modify fun state => { state with skip := .function true }
    pure status

def leaveShell : Builtin := fun args => do
  match args with
  | [] => pure ()
  | word :: _ =>
    let status ← number word
    modify fun state => { state with kept := some status }
  modify fun state =>
    { state with status := state.kept.getD state.status, kept := none }
  Act.leap .ended

def test : Builtin := fun args => do
  match Test.holds (← get) args with
  | .ok holds => pure (if holds then 0 else 1)
  | .error message => Act.fail message

def bracketTest : Builtin := fun args => do
  match Test.bracketed args with
  | .ok words => test words
  | .error message => Act.fail message

def times : Builtin := fun _ => do
  let line := "0m0.000000s 0m0.000000s\n".toList
  Act.print (line ++ line)
  pure 0

def limits : List (Char × String × String) :=
  [('t', "time(seconds)", "unlimited"), ('f', "file(blocks)", "unlimited"),
    ('d', "data(kbytes)", "unlimited"), ('s', "stack(kbytes)", "8192"),
    ('c', "coredump(blocks)", "0"), ('m', "memory(kbytes)", "unlimited"),
    ('l', "locked memory(kbytes)", "8192"), ('p', "process", "unlimited"),
    ('n', "nofiles", "1024"), ('v', "vmemory(kbytes)", "unlimited"),
    ('w', "locks", "unlimited"), ('r', "rtprio", "0")]

def ulimit : Builtin := fun args => do
  let given ← options "HSatfdscmlpnvwr" "" args
  let chosen := (given.options.map (·.1)).filter fun c => c != 'H' && c != 'S'
  match given.rest with
  | _ :: _ :: _ => Act.fail "too many arguments".toList
  | [word] =>
    if word = "unlimited".toList ∨ (word ≠ [] ∧ word.all Char.isDigit) then pure 0
    else Act.fail "bad number".toList
  | [] =>
    if chosen.elem 'a' then
      Act.print (limits.flatMap fun (_, name, value) =>
        name.toList ++ List.replicate (21 - name.length) ' ' ++ value.toList ++ ['\n'])
    else
      let letter := chosen.getLast?.getD 'f'
      match limits.find? (·.1 = letter) with
      | some (_, _, value) => Act.printLine value.toList
      | none => pure ()
    pure 0

end WorkerLint.Shell.Builtin
