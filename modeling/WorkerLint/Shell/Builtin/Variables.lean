import WorkerLint.Shell.Builtin.Arguments

namespace WorkerLint.Shell.Builtin

def listVariables (lead : Text) (test : Variable → Bool) : Act Unit := do
  let found := (← get).vars.filter fun (_, entry) => test entry
  let sorted := found.mergeSort fun a b => !decide (b.1 < a.1)
  Act.print (sorted.flatMap fun (name, entry) =>
    let value :=
      match entry.value with
      | some value => '=' :: quote value
      | none => []
    (if lead = [] then [] else lead ++ [' ']) ++ name ++ value ++ ['\n'])

def split (word : Text) : Text × Option Text :=
  let name := word.takeWhile (· ≠ '=')
  match word.drop name.length with
  | _ :: value => (name, some value)
  | [] => (name, none)

def checkName (name : Text) : Act Unit :=
  if isName name then pure () else Act.fail (name ++ ": bad variable name".toList)

def mark (change : Variable → Variable) (word : Text) : Act Unit := do
  let (name, value) := split word
  checkName name
  match value with
  | some value => Act.setVariable name value
  | none => pure ()
  modify fun state =>
    state.putVariable name (some (change ((state.var? name).getD ⟨none, false, false⟩)))

def marking (name : String) (change : Variable → Variable) (test : Variable → Bool) : Builtin :=
  fun args => do
    let given ← options "p" "" args
    if given.has 'p' || given.rest.isEmpty then listVariables name.toList test
    else given.rest.forM (mark change)
    pure 0

def exporting : Builtin :=
  marking "export" (fun entry => { entry with isExported := true }) (·.isExported)

def protecting : Builtin :=
  marking "readonly" (fun entry => { entry with isReadonly := true }) (·.isReadonly)

def makeLocal (word : Text) : Act Unit := do
  if word = ['-'] then
    modify fun state =>
      match state.locals with
      | frame :: rest => { state with locals := (.flags state.flags :: frame) :: rest }
      | [] => state
  else
    let (name, value) := split word
    checkName name
    let old := (← get).var? name
    match value with
    | some value =>
      Act.setVariable name value
      modify fun state =>
        match state.locals with
        | frame :: rest => { state with locals := (.variable name old :: frame) :: rest }
        | [] => state
    | none => Act.keepVariable name

def localizing : Builtin := fun args => do
  if (← get).locals.isEmpty then Act.fail "not in a function".toList
  args.forM makeLocal
  pure 0

def unset : Builtin := fun args => do
  let given ← options "fv" "" args
  let isFunction := (given.options.getLast?.map (·.1)) == some 'f'
  given.rest.forM fun name => do
    if isFunction then
      modify fun state => { state with functions := state.functions.filter (·.1 != name) }
    else
      checkName name
      Act.unsetVariable name
  pure 0

def setNamed (name : Option Text) (on : Bool) : Act Unit := do
  let state ← get
  match name with
  | none =>
    if on then
      Act.printLine "Current option settings".toList
      Act.print (Flag.table.flatMap fun (flag, name, _) =>
        name.toList ++ List.replicate (16 - name.length) ' ' ++
          (if state.isOn flag then "on\n".toList else "off\n".toList))
    else
      Act.print (Flag.table.flatMap fun (flag, name, _) =>
        (if state.isOn flag then "set -o ".toList else "set +o ".toList) ++ name.toList ++ ['\n'])
  | some name =>
    match Flag.ofName? name with
    | some flag => set (state.setFlag flag on)
    | none => Act.fail ("Illegal option -o ".toList ++ name)

def setLetter (letter : Char) (on : Bool) : Act Unit := do
  match Flag.ofLetter? letter with
  | some flag =>
    modify fun state =>
      let state := state.setFlag flag on
      if on && flag = .vi then state.setFlag .emacs false
      else if on && flag = .emacs then state.setFlag .vi false
      else state
  | none => Act.fail ("Illegal option -".toList ++ [letter])

def setLetters (on : Bool) : Text → List Text → Act (List Text)
  | [], rest => pure rest
  | letter :: more, rest => do
    if letter = 'o' then
      setNamed rest.head? on
      setLetters on more rest.tail
    else
      setLetter letter on
      setLetters on more rest

def setParams (params : List Text) : Act Unit :=
  modify fun state => { state with params, optionWord := 1, optionLetter := none }

def checkJobControl : Act Unit := do
  if (← get).isOn .monitor then
    Act.warn "can't access tty; job control turned off".toList
    modify fun state => state.setFlag .monitor false

def setFrom : Nat → List Text → Act Unit
  | 0, _ => pure ()
  | fuel + 1, args => do
    match args with
    | [] => pure ()
    | ['-'] :: rest =>
      modify fun state => (state.setFlag .xtrace false).setFlag .verbose false
      if rest ≠ [] then setParams rest
    | ['-', '-'] :: rest => setParams rest
    | ('-' :: letters) :: rest => setFrom fuel (← setLetters true letters rest)
    | ('+' :: letters) :: rest => setFrom fuel (← setLetters false letters rest)
    | _ => setParams args

def setting : Builtin := fun args => do
  if args.isEmpty then listVariables [] (·.value.isSome)
  else
    setFrom (args.length + 1) args
    checkJobControl
  pure 0

def shift : Builtin := fun args => do
  let count ←
    match args with
    | [] => pure 1
    | word :: _ => number word
  let state ← get
  if state.params.length < count then Act.fail "can't shift that many".toList
  setParams (state.params.drop count)
  pure 0

end WorkerLint.Shell.Builtin
