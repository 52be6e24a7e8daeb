import WorkerLint.Shell.State

namespace WorkerLint.Shell

structure Manner where
  exits : Bool
  /-- Something depends on whether the command succeeds, so a failure is no fault. -/
  isTested : Bool
  deriving DecidableEq, Repr

namespace Manner

def plain : Manner := ⟨false, false⟩

def tested : Manner := ⟨false, true⟩

def last : Manner := ⟨true, false⟩

def staying (manner : Manner) : Manner :=
  { manner with exits := false }

end Manner

abbrev Exec := Manner → Command → Act Unit

inductive Origin
  | file
  | text
  deriving DecidableEq, Repr

/-- What is shown while commands are read: something before each, something before each further
line of it, and something when there are no more. -/
structure Prompts where
  command : Act Unit
  line : Act Unit
  finish : Act Unit

def Prompts.silent : Prompts :=
  ⟨pure (), pure (), pure ()⟩

namespace Command

def isNothing : Command → Bool
  | .nothing => true
  | _ => false

end Command

def echoLine (origin : Origin) (line : Text) : Act Unit := do
  if origin = .file then
    if (← get).isOn .verbose then Act.note line

def showLines (prompts : Prompts) (origin : Origin) : Nat → List Text → Act Unit
  | 0, _ => pure ()
  | count + 1, lines => do
    prompts.line
    echoLine origin (lines.headD [])
    showLines prompts origin count lines.tail

def showRead (prompts : Prompts) (origin : Origin) (further : Nat) (lines : List Text) :
    Act Unit := do
  echoLine origin (lines.headD [])
  showLines prompts origin further lines.tail

def linesBetween (before after : Source) : List Text :=
  let text := before.remainder
  Text.splitLines (text.take (text.length - after.remainder.length))

def linesUpTo (source : Source) (line : Nat) : List Text :=
  (Text.splitLines source.remainder).take (line + 1 - source.line)

/-- Reads and runs commands until none are left, or until some are to be passed over. Gives the
status of the last one, or the one given if there was none. -/
def commandsOf (exec : Exec) (prompts : Prompts) (origin : Origin) (manner : Manner) :
    Nat → Source → Nat → Act Nat
  | 0, _, status => pure status
  | fuel + 1, source, status => do
    prompts.command
    match parseCommand (← get).parseContext source with
    | .error (fault, _) =>
      showRead prompts origin (fault.line - source.line) (linesUpTo source fault.line)
      Act.failSyntax fault.line fault.message
    | .ok parsed =>
      let lines := linesBetween source parsed.source
      showRead prompts origin (lines.length - 1) lines
      modify fun state =>
        { state with
          texts := parsed.texts ++ state.texts
          nextText := parsed.nextText
          readLine := parsed.source.line }
      match parsed.command with
      | none =>
        prompts.finish
        pure status
      | some command =>
        exec { manner with exits := manner.exits && parsed.isLast } command
        let state ← get
        let status := if command.isNothing then status else state.status
        if state.skip = .nothing then
          commandsOf exec prompts origin manner fuel parsed.source status
        else pure status

def runFrom (exec : Exec) (prompts : Prompts) (origin : Origin) (manner : Manner) (text : Text) :
    Act Nat := do
  let line := (← get).readLine
  let status ← commandsOf exec prompts origin manner (text.length + 2) (Source.ofText 1 text) 0
  modify fun state => { state with readLine := line }
  pure status

def runText (exec : Exec) (manner : Manner) (text : Text) : Act Nat :=
  runFrom exec .silent .text manner text

def runFile (exec : Exec) (prompts : Prompts) (text : Text) : Act Nat := do
  let status ← runFrom exec prompts .file .plain text
  modify fun state =>
    match state.skip with
    | .function _ => { state with skip := .nothing }
    | _ => state
  pure status

end WorkerLint.Shell
