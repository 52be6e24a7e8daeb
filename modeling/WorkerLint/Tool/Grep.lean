import WorkerLint.Tool.Grep.Lines

namespace WorkerLint.Tool.Grep

open Program

structure Sweep where
  launch : Launch
  settings : Settings
  finder : Finder
  palette : Palette
  outputIsNull : Bool
  output : Option Place
  showsName : Option Bool
  /-- The working directory was not named: its files go by their names in it. -/
  isHere : Bool
  printed : List Text
  isBroken : Bool
  failed : Bool
  matched : Bool
  used : Bool

abbrev Sweeping := StateT Sweep (ExceptT Ending (StateM Machine))

def flush : Sweeping (Except Denial Unit) := do
  let sweep ← getThe Sweep
  let text := sweep.printed.reverse.flatten
  set { sweep with printed := [] }
  if text = [] then pure (.ok ()) else write sweep.launch.process 1 text

def print (text : Text) : Sweeping Unit :=
  modifyThe Sweep fun sweep => { sweep with printed := text :: sweep.printed }

def say (text : Text) : Sweeping Unit := do
  match ← flush with
  | .ok _ => pure ()
  | .error _ => modifyThe Sweep fun sweep => { sweep with isBroken := true }
  message (← getThe Sweep).launch text

def complain (name reason : Text) : Sweeping Unit := do
  if !(← getThe Sweep).settings.noMessages then say (name ++ ": ".toList ++ reason)
  modifyThe Sweep fun sweep => { sweep with failed := true }

def skipsDevices (settings : Settings) (isNamed : Bool) : Bool :=
  match settings.devices with
  | .skip => true
  | .read => false
  | .readNamed => !isNamed && !settings.followLinks

def isDevice : Target → Bool
  | .special (.program _) => false
  | .special _ => true
  | .pipe _ => true
  | _ => false

def isDir : Target → Bool
  | .dir _ => true
  | _ => false

def isSkipped (sweep : Sweep) (isNamed isDir : Bool) (name : Text) : Bool :=
  let settings := sweep.settings
  if !isDir then Rule.excludes settings.fileRules isNamed name
  else if settings.dirs = .skip then true
  else if isNamed && sweep.isHere then false
  else Rule.excludes settings.dirRules isNamed name

def widthFor (settings : Settings) (size : Option Nat) : Nat :=
  if !settings.alignTabs then 0
  else
    match size with
    | some size => (Text.ofNat (if settings.showLine then size + 1 else size)).length
    | none => 19

def report (style : Style) (name : Text) (count : Nat) : Sweeping Unit := do
  let sweep ← getThe Sweep
  let settings := sweep.settings
  let isListed := settings.listing ≠ .none
  if settings.counts && !isListed && !settings.quiet && !sweep.outputIsNull then
    print (style.nameHead .selected ++ Text.ofNat count ++ ['\n'])
  if !settings.quiet && !sweep.outputIsNull &&
      settings.listing = (if count = 0 then Listing.others else .selected) then
    print (style.palette.paint style.palette.fileName name ++
      [if settings.nulAfterName then '\x00' else '\n'])
  if count ≠ 0 then modifyThe Sweep fun sweep => { sweep with matched := true }

def searchText (style : Style) (name text : Text) : Sweeping (Nat × Option Nat) := do
  let sweep ← getThe Sweep
  let settings := sweep.settings
  let isQuiet := settings.quiet || sweep.outputIsNull || settings.listing ≠ .none
  let isBinary := text.elem '\x00' && !settings.nulEndsLines && settings.binary ≠ .asText
  if isBinary && settings.binary = .skip then pure (0, none)
  else
    let hides := isBinary && (isQuiet || !settings.counts)
    let plan : Plan := ⟨style, isQuiet || settings.counts || hides, isQuiet || hides,
      settings.before <|> settings.around, settings.after <|> settings.around⟩
    let text := if isBinary then text.map fun c => if c = '\x00' then '\n' else c else text
    let start : Progress := ⟨[], [], none, 0, settings.most, 0, 0, sweep.used⟩
    let found := plan.search start (Line.all style.lineEnd text)
    set { sweep with printed := found.shown ++ sweep.printed, used := found.used }
    if settings.quiet && found.count ≠ 0 then throw (.exited 0)
    if hides && !isQuiet && found.count ≠ 0 then say (name ++ ": binary file matches".toList)
    pure (found.count, if found.left = some 0 then some found.reached else none)

/-- The input must not be what is written to, where that could go on for ever. -/
def isOutput (sweep : Sweep) (target : Target) : Bool :=
  let settings := sweep.settings
  !settings.quiet && !sweep.outputIsNull && !settings.counts && settings.listing = .none &&
    settings.most.all (1 < ·) &&
    match target with
    | .file place => sweep.output == some place
    | _ => false

def searchOpen (isInput : Bool) (name : Text) (number : Nat) (target : Target) :
    Sweeping Unit := do
  let sweep ← getThe Sweep
  let settings := sweep.settings
  if isOutput sweep target then complain name "input file is also the output".toList
  else
    let machine ← getThe Machine
    let size : Option Nat :=
      match target with
      | .file place => some (machine.contentAt place).length
      | _ => none
    let shown := if sweep.showsName = some true then some name else none
    let style : Style := ⟨settings, sweep.finder, sweep.palette, shown, widthFor settings size⟩
    match machine.unread number with
    | .error denial =>
      complain name denial.reason
      report style name 0
    | .ok text =>
      modifyThe Machine fun machine => machine.consume number text.length
      let (count, taken) ← searchText style name text
      match isInput, size, taken with
      | true, some _, some taken =>
        modifyThe Machine fun machine =>
          match machine.file? number with
          | some file =>
            machine.setFile number
              { file with offset := file.offset - (text.length - min taken text.length) }
          | none => machine
      | _, _, _ => pure ()
      report style name count

def searchFound (path name : Text) : Sweeping Unit := do
  let sweep ← getThe Sweep
  match (← getThe Machine).openFile sweep.launch.process .read path with
  | .error denial => complain name denial.reason
  | .ok (number, machine) =>
    set machine
    match machine.file? number with
    | some file => searchOpen false name number file.target
    | none => pure ()

def joined (path name : Text) : Text :=
  if path.getLast? = some '/' then path ++ name else path ++ '/' :: name

inductive Entry
  | dir (place : Place)
  | file
  | device
  | link
  deriving DecidableEq, Repr

def entryAt (machine : Machine) (follows : Bool) (place : Place) (name : Name) : Entry :=
  let ofTree (place : Place) : FileTree → Entry
    | .dir _ => .dir place
    | .special (.program _) => .file
    | .special _ => .device
    | _ => .file
  match machine.root.get? (place ++ [name]) with
  | some (.link _) =>
    if !follows then .link
    else
      match Disk.resolve ⟨machine.root, place⟩ .target ⟨name⟩ with
      | .ok place =>
        match machine.root.get? place with
        | some tree => ofTree place tree
        | none => .file
      | .error _ => .file
  | some tree => ofTree (place ++ [name]) tree
  | none => .file

def walk : Nat → List Place → Text → Place → Sweeping Unit
  | 0, _, _, _ => pure ()
  | depth + 1, above, path, place => do
    let machine ← getThe Machine
    let entries := ((machine.root.get? place).map (·.entries)).getD []
    let names := (entries.map (·.1)).mergeSort FileTree.nameLe
    names.forM fun entryName => do
      let sweep ← getThe Sweep
      let settings := sweep.settings
      let name := Octets.ofBytes entryName
      let full := joined path name
      let shown := if sweep.isHere then full.drop 2 else full
      let entry := entryAt machine settings.followLinks place entryName
      let below : Option Place :=
        match entry with
        | .dir place => some place
        | _ => none
      if !isSkipped sweep false below.isSome name then
        match entry with
        | .dir inner =>
          if (place :: above).contains inner then
            if !settings.noMessages then
              say (shown ++ ": warning: recursive directory loop".toList)
          else walk depth (place :: above) full inner
        | .file => searchFound full shown
        | .device => if !skipsDevices settings false then searchFound full shown
        | .link => pure ()

def maxLevels : Nat := 2048

def trimRoot (path : Text) : Text :=
  let kept := (path.reverse.dropWhile (· = '/')).reverse
  if kept.length + 1 < path.length then kept ++ ['/'] else path

def searchNamed (isInput : Bool) (name : Text) (number : Nat) (target : Target) :
    Sweeping Unit := do
  let sweep ← getThe Sweep
  let settings := sweep.settings
  let isSkipped := !isInput &&
    ((isDevice target && skipsDevices settings true) ||
      isSkipped sweep true (isDir target) name)
  if !isSkipped then
    set { sweep with showsName := sweep.showsName <|> some (isDir target) }
    match isInput, target, settings.dirs with
    | false, .dir place, .recurse => walk maxLevels [] (trimRoot name) place
    | _, _, _ => searchOpen isInput name number target

def searchOperand (operand : Text) : Sweeping Unit := do
  let sweep ← getThe Sweep
  let machine ← getThe Machine
  if operand = ['-'] then
    let name := sweep.settings.label.getD "(standard input)".toList
    match machine.at? sweep.launch.process 0 with
    | some (number, file) => searchNamed true name number file.target
    | none => complain name Denial.badDescriptor.reason
  else
    match machine.openFile sweep.launch.process .read operand with
    | .error denial => complain operand denial.reason
    | .ok (number, machine) =>
      set machine
      match machine.file? number with
      | some file => searchNamed false operand number file.target
      | none => pure ()

def conclude : Sweeping Ending := do
  let result ← flush
  let sweep ← getThe Sweep
  match result, sweep.isBroken with
  | .error denial, false =>
    message sweep.launch ("write error: ".toList ++ denial.reason)
    pure (.exited 2)
  | .ok _, false => pure (.exited (if sweep.failed then 2 else if sweep.matched then 0 else 1))
  | _, true =>
    message sweep.launch "write error".toList
    pure (.exited 2)

/-- Without any pattern nothing matches: as if all lines were asked for, the other way round. -/
def settled (settings : Settings) : Settings :=
  if settings.patterns = some [] then
    { settings with
      patterns := some [⟨[], none⟩]
      invert := !settings.invert
      wholeLines := false
      wholeWords := false }
  else settings

def selectsNothing (settings : Settings) : Bool :=
  let isEmpty := (settings.patterns.getD []).map (·.text) == [[]]
  (settings.most = some 0 ||
    (isEmpty && settings.invert && !settings.wholeLines && !settings.wholeWords)) &&
    settings.listing ≠ .others

def operandsOr (settings : Settings) (operands : List Text) : List Text :=
  if operands ≠ [] then operands
  else if settings.dirs = .recurse then [['.']]
  else [['-']]

def sweepOf (launch : Launch) (settings : Settings) (operands : List Text) (finder : Finder) :
    ExceptT Ending (StateM Machine) Sweep := do
  let machine ← get
  let target : Option Target := (machine.at? launch.process 1).map fun (_, file) => file.target
  let showsName : Option Bool :=
    match settings.showName with
    | some shows => some shows
    | none =>
      if 1 < operands.length then some true
      else if settings.dirs = .recurse then none
      else some false
  pure
    { launch, settings, finder, showsName
      palette := .ofEnvironment settings.color launch.environment
      outputIsNull := target == some (.special .null)
      output :=
        match target with
        | some (.file place) => some place
        | _ => none
      isHere := operands.isEmpty && settings.dirs = .recurse
      printed := []
      isBroken := false
      failed := false
      matched := false
      used := false }

def warnOfColor (launch : Launch) (settings : Settings) : StateM Machine Unit := do
  let old := ((launch.environment.find? (·.1 == "GREP_COLOR".toList)).map (·.2)).getD []
  if settings.color && old ≠ [] && Palette.isColor old then
    message launch ("warning: GREP_COLOR='".toList ++ old ++
      "' is deprecated; use GREP_COLORS='mt=".toList ++ old ++ ['\''])

def run (launch : Launch) : ExceptT Ending (StateM Machine) Ending := do
  let (settings, operands) ← readArguments launch
  let settings := settled settings
  warnOfColor launch settings
  if selectsNothing settings then pure (.exited 1)
  else
    match Query.ofSettings settings with
    | .refused messages =>
      messages.forM fun text => message launch text
      pure (.exited 2)
    | .found finder warnings =>
      warnings.forM fun text => message launch text
      let sweep ← sweepOf launch settings operands finder
      let action : Sweeping Ending := do
        (operandsOr settings operands).forM searchOperand
        conclude
      (·.1) <$> action.run sweep

def program : Program := fun launch => do
  match ← (run launch).run with
  | .ok ending => pure ending
  | .error ending => pure ending

end WorkerLint.Tool.Grep
