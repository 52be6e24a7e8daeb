import WorkerLint.Print.Escape
import WorkerLint.Shell.Builtin.Arguments
import WorkerLint.Shell.Lookup

namespace WorkerLint.Shell.Builtin

def pathOfPlace (place : Place) : Text :=
  if place = [] then ['/'] else place.flatMap fun name => '/' :: Octets.ofBytes name

def climb : List Text → List Text → List Text
  | sofar, [] => sofar
  | sofar, piece :: rest =>
    if piece = [] ∨ piece = ['.'] then climb sofar rest
    else if piece = ['.', '.'] then climb sofar.dropLast rest
    else climb (sofar ++ [piece]) rest

/-- Two slashes at the start of a path, and no third one, are kept. -/
def doubleRoot : Text → Bool
  | '/' :: '/' :: rest => rest.head? != some '/'
  | _ => false

def logical (here path : Text) : Text :=
  let absolute := path.head? = some '/'
  let base := if absolute then [] else climb [] (Text.pieces '/' here)
  let pieces := climb base (Text.pieces '/' path)
  let root : Text := if doubleRoot (if absolute then path else here) then ['/', '/'] else ['/']
  root ++ Text.join ['/'] pieces

def goTo (physical : Bool) (path : Text) : Act Bool := do
  let state ← get
  let target := if physical then path else logical state.here path
  match state.disk.lookup .target (Machine.pathOf target),
      state.disk.resolve .target (Machine.pathOf target) with
  | .ok (.dir _), .ok place =>
    let here := if physical then pathOfPlace place else target
    let old := state.here
    let stale : List Text := state.remembered.map (·.1)
    set { state with process := { state.process with here := place }, here, stale }
    Act.setVariable "OLDPWD".toList old
    Act.setVariable "PWD".toList here
    modify fun state =>
      ["OLDPWD".toList, "PWD".toList].foldl
        (fun (state : State) name =>
          state.putVariable name
            ((state.var? name).map fun found => { found with isExported := true }))
        state
    pure true
  | _, _ => pure false

def isFixed (path : Text) : Bool :=
  match path with
  | '/' :: _ => true
  | ['.'] => true
  | '.' :: '/' :: _ => true
  | ['.', '.'] => true
  | '.' :: '.' :: '/' :: _ => true
  | _ => false

def isDirectory (state : State) (path : Text) : Bool :=
  match state.disk.lookup .target (Machine.pathOf path) with
  | .ok tree => tree.isDir
  | .error _ => false

def cd : Builtin := fun args => do
  let given ← options "LP" "" args
  let physical := (given.options.getLast?.map (·.1)) == some 'P'
  let state ← get
  let (wanted, back) : Text × Bool :=
    match given.rest with
    | [] => (state.value "HOME", false)
    | ['-'] :: _ => (state.value "OLDPWD", true)
    | path :: _ => (path, false)
  let finish (path : Text) (announced : Bool) : Act Nat := do
    if ← goTo physical path then
      if announced then Act.printLine (← get).here
      pure 0
    else Act.fail ("can't cd to ".toList ++ wanted)
  if isFixed wanted then finish wanted back
  else
    let path := if wanted = [] then ['.'] else wanted
    let places :=
      match state.value? "CDPATH".toList with
      | some places => Lookup.directories places
      | none => [[]]
    match places.find? fun place => isDirectory state (Lookup.within place path) with
    | some place => finish (Lookup.within place path) (back || place ≠ [])
    | none => finish path back

def pwd : Builtin := fun args => do
  let given ← options "LP" "" args
  let state ← get
  let physical := (given.options.getLast?.map (·.1)) == some 'P'
  Act.printLine (if physical then pathOfPlace state.process.here else state.here)
  pure 0

def maskLetters (mask : Nat) : Text :=
  let rights (who : Char) (shift : Nat) : Text :=
    let left := 7 - (mask >>> shift) % 8
    who :: '=' :: ((if left.testBit 2 then ['r'] else []) ++ (if left.testBit 1 then ['w'] else [])
      ++ (if left.testBit 0 then ['x'] else []))
  rights 'u' 6 ++ ',' :: rights 'g' 3 ++ ',' :: rights 'o' 0

def octal (size value : Nat) : Text :=
  let digits := Nat.toDigits 8 value
  List.replicate (size - digits.length) '0' ++ digits

def rightBits (who : List Char) (letters : Text) (allowed : Nat) : Nat :=
  let one (shift : Nat) : Nat :=
    letters.foldl
      (fun bits c =>
        let more :=
          match c with
          | 'r' => 4
          | 'w' => 2
          | 'x' => 1
          | 'X' => if allowed &&& 0o111 = 0 then 0 else 1
          | 'u' => (allowed >>> 6) % 8
          | 'g' => (allowed >>> 3) % 8
          | 'o' => allowed % 8
          | _ => 0
        bits ||| more)
      0 <<< shift
  let has (c : Char) : Bool := who.isEmpty || who.elem c || who.elem 'a'
  let part (c : Char) (shift : Nat) : Nat := if has c then one shift else 0
  part 'u' 6 ||| part 'g' 3 ||| part 'o' 0

/-- One change of rights after another, all for the same. -/
def changes (who : List Char) : Nat → Text → Nat → Option Nat
  | 0, _, _ => none
  | _, [], allowed => some allowed
  | fuel + 1, op :: rest, allowed =>
    let letters := rest.takeWhile "rwxXstugo".toList.elem
    let after := rest.drop letters.length
    let bits := rightBits who letters allowed
    match op with
    | '+' => changes who fuel after (allowed ||| bits)
    | '-' => changes who fuel after (allowed - (allowed &&& bits))
    | '=' =>
      let all := rightBits who "rwx".toList allowed
      changes who fuel after ((allowed - (allowed &&& all)) ||| bits)
    | _ => none

def changed? (allowed : Nat) (text : Text) : Option Nat :=
  (Text.pieces ',' text).foldlM
    (fun allowed clause =>
      let who := clause.takeWhile "ugoa".toList.elem
      let rest := clause.drop who.length
      if rest = [] then none else changes who (rest.length + 1) rest allowed)
    allowed

def umask : Builtin := fun args => do
  let given ← options "S" "" args
  let mask := (← get).mask
  match given.rest with
  | [] =>
    Act.printLine (if given.has 'S' then maskLetters mask else octal 4 mask)
    pure 0
  | text :: _ =>
    match text with
    | c :: _ =>
      if c.isDigit then
        if text.all Print.isOctal then
          modify fun state => { state with mask := Print.valueIn 8 text % 512 }
          pure 0
        else Act.fail ("Illegal number: ".toList ++ text)
      else
        match changed? (511 - mask) text with
        | some allowed =>
          modify fun state => { state with mask := 511 - allowed }
          pure 0
        | none => Act.fail ("Illegal mode: ".toList ++ text)
    | [] => Act.fail "Illegal mode: ".toList

end WorkerLint.Shell.Builtin
