import WorkerLint.Shell.State

namespace WorkerLint.Shell

def builtinNames : List Text :=
  [".", ":", "[", "alias", "bg", "break", "cd", "chdir", "command", "continue", "echo", "eval",
    "exec", "exit", "export", "false", "fg", "getopts", "hash", "jobs", "kill", "local", "printf",
    "pwd", "read", "readonly", "return", "set", "shift", "test", "times", "trap", "true", "type",
    "ulimit", "umask", "unalias", "unset", "wait"].map String.toList

/-- Commands after which assignments stay, and whose faults end the shell. -/
def isSpecial (name : Text) : Bool :=
  specialBuiltins.contains name

/-- Arguments that look like assignments are expanded as such. -/
def takesAssignments (name : Text) : Bool :=
  ["alias", "export", "local", "readonly"].any (·.toList == name)

inductive Meaning
  | function (body : Command)
  | builtin (name : Text)
  | program (path : Text)
  | unknown (denial : Denial)

namespace Lookup

def directories (path : Text) : List Text :=
  Text.pieces ':' path

def within (directory name : Text) : Text :=
  if directory = [] then name else directory ++ '/' :: name

def isFile (state : State) (path : Text) : Bool :=
  match state.machine.targetOf? state.process (Machine.pathOf path) with
  | some (.file _) => true
  | some (.special (.program _)) => true
  | _ => false

def isThere (state : State) (path : Text) : Bool :=
  (state.machine.targetOf? state.process (Machine.pathOf path)).isSome

def fileOnPath? (state : State) (path name : Text) : Option Text :=
  ((directories path).map (within · name)).find? (isFile state)

def isProgram (state : State) (path : Text) : Bool :=
  match state.machine.targetOf? state.process (Machine.pathOf path) with
  | some (.special (.program _)) => true
  | _ => false

def onPath (state : State) (path name : Text) : Except Denial Text :=
  let found := (directories path).map (within · name)
  match found.find? (isProgram state) with
  | some program => .ok program
  | none => .error (if found.any (isThere state) then .notPermitted else .noEntry)

def standardPath : Text :=
  "/usr/local/sbin:/usr/local/bin:/usr/sbin:/usr/bin:/sbin:/bin".toList

def meaning (state : State) (functions : Bool) (path name : Text) : Meaning :=
  match if functions then state.functions.find? (·.1 == name) else none with
  | some (_, body) => .function body
  | none =>
    if name.elem '/' then .program name
    else if builtinNames.contains name then .builtin name
    else
      match state.remembered.find? (·.1 == name) with
      | some (_, found) => .program found
      | none =>
        match onPath state path name with
        | .ok found => .program found
        | .error denial => .unknown denial

def refusal (denial : Denial) : Text :=
  if denial = .noEntry ∨ denial = .notDirectory then "not found".toList else denial.reason

def remember (name path : Text) : Act Unit :=
  modify fun state =>
    let stale := state.stale.filter (· != name)
    if name.elem '/' || state.remembered.any (·.1 == name) then { state with stale }
    else { state with remembered := state.remembered ++ [(name, path)], stale }

end Lookup

end WorkerLint.Shell
