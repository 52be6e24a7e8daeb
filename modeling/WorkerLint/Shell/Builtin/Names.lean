import WorkerLint.Shell.Builtin.Variables
import WorkerLint.Shell.Lookup

namespace WorkerLint.Shell.Builtin

def aliasLine (name value : Text) : Text :=
  name ++ '=' :: quote value ++ ['\n']

def listedAliases (state : State) : List (Text × Text) :=
  (tableOrder 39 (state.aliases.map (·.1))).filterMap fun name =>
    state.aliases.find? (·.1 == name)

def setAlias (name value : Text) : Act Unit :=
  modify fun state =>
    let aliases :=
      if state.aliases.any (·.1 == name) then
        state.aliases.map fun entry => if entry.1 == name then (name, value) else entry
      else state.aliases ++ [(name, value)]
    { state with aliases }

def splitAlias (word : Text) : Text × Option Text :=
  let name := word.take 1 ++ (word.drop 1).takeWhile (· ≠ '=')
  match word.drop name.length with
  | _ :: value => (name, some value)
  | [] => (name, none)

def aliasing : Builtin := fun args => do
  if args.isEmpty then
    Act.print ((listedAliases (← get)).flatMap fun (name, value) => aliasLine name value)
    pure 0
  else
    let statuses ← args.mapM fun word => do
      match splitAlias word with
      | (name, some value) =>
        setAlias name value
        pure 0
      | (name, none) =>
        match (← get).aliases.find? (·.1 == name) with
        | some (_, value) =>
          Act.print (aliasLine name value)
          pure 0
        | none =>
          Act.note ("alias: ".toList ++ name ++ " not found\n".toList)
          pure 1
    pure (statuses.foldl max 0)

def unalias : Builtin := fun args => do
  let given ← options "a" "" args
  if given.has 'a' then
    modify fun state => { state with aliases := [] }
    pure 0
  else
    let statuses ← given.rest.mapM fun name => do
      let state ← get
      if state.aliases.any (·.1 == name) then
        set { state with aliases := state.aliases.filter (·.1 != name) }
        pure 0
      else
        Act.note ("unalias: ".toList ++ name ++ " not found\n".toList)
        pure 1
    pure (statuses.foldl max 0)

def describe (inWords : Bool) (path : Option Text) (name : Text) : Act Nat := do
  let state ← get
  let say (words brief : Text) : Act Nat := do
    Act.printLine (if inWords then name ++ " is ".toList ++ words else brief)
    pure 0
  if keywords.contains name then say "a shell keyword".toList name
  else
    match state.aliases.find? (·.1 == name) with
    | some (_, value) =>
      if inWords then say ("an alias for ".toList ++ value) []
      else
        Act.print ("alias ".toList ++ aliasLine name value)
        pure 0
    | none =>
      let tracked := path.isNone && state.remembered.any (·.1 == name)
      match Lookup.meaning state true (path.getD (state.value "PATH")) name with
      | .function _ => say "a shell function".toList name
      | .builtin _ =>
        say ((if isSpecial name then "a special shell builtin" else "a shell builtin").toList) name
      | .program found =>
        if name.elem '/' && !Lookup.isThere state name then missing
        else
          if path.isNone then Lookup.remember name found
          say ((if tracked then "a tracked alias for ".toList else []) ++ found) found
      | .unknown _ => missing
where
  missing : Act Nat := do
    if inWords then Act.printLine (name ++ ": not found".toList)
    pure 127

def type : Builtin := fun args => do
  let statuses ← args.mapM (describe true none)
  pure (statuses.foldl max 0)

def commandQuery : Builtin := fun args => do
  let given ← options "pvV" "" args
  let path := if given.has 'p' then some Lookup.standardPath else none
  match given.rest with
  | name :: _ =>
    if given.has 'v' || given.has 'V' then
      describe ((given.options.filter (·.1 != 'p')).getLast?.map (·.1) == some 'V') path name
    else pure 0
  | [] => pure 0

def hash : Builtin := fun args => do
  let given ← options "r" "" args
  if given.has 'r' then
    modify fun state => { state with remembered := [] }
    pure 0
  else if given.rest.isEmpty then
    let state ← get
    let listed := tableOrder 31 (state.remembered.map (·.1))
    Act.print (listed.flatMap fun name =>
      match state.remembered.find? (·.1 == name) with
      | some (_, path) =>
        path ++ (if state.stale.contains name then "*\n".toList else ['\n'])
      | none => [])
    pure 0
  else
    let statuses ← given.rest.mapM fun name => do
      let state ← get
      match Lookup.meaning state true (state.value "PATH") name with
      | .program found =>
        Lookup.remember name found
        pure 0
      | .unknown denial =>
        Act.warn (name ++ ": ".toList ++ Lookup.refusal denial)
        pure 1
      | _ => pure 0
    pure (statuses.foldl max 0)

end WorkerLint.Shell.Builtin
