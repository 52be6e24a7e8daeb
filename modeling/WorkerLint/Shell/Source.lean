import WorkerLint.Text

namespace WorkerLint.Shell

structure Layer where
  text : Text
  origin : Option Text
  endsBlank : Bool
  deriving DecidableEq, Repr

structure Source where
  layers : List Layer
  line : Nat
  aliasNext : Bool
  ended : List Text
  deriving DecidableEq, Repr

namespace Source

def ofText (line : Nat) (text : Text) : Source :=
  ⟨[⟨text, none, false⟩], line, false, []⟩

def nextOf (line : Nat) : Bool → List Text → List Layer → Option Char × Source
  | aliasNext, ended, [] => (none, ⟨[], line, aliasNext, ended⟩)
  | aliasNext, ended, layer :: rest =>
    match layer.text with
    | c :: text => (some c, ⟨{ layer with text } :: rest, line, aliasNext, ended⟩)
    | [] =>
      if rest = [] then (none, ⟨[layer], line, aliasNext, ended⟩)
      else nextOf line (aliasNext || layer.endsBlank) (layer.origin.toList ++ ended) rest

def next (source : Source) : Option Char × Source :=
  nextOf source.line source.aliasNext [] source.layers

def back (source : Source) (c : Char) : Source :=
  match source.layers with
  | layer :: rest => { source with layers := { layer with text := c :: layer.text } :: rest }
  | [] => { source with layers := [⟨[c], none, false⟩] }

def newLine (source : Source) : Source :=
  { source with line := source.line + 1 }

/-- The text of an alias is being read, or its last word is. -/
def isInUse (source : Source) (name : Text) : Bool :=
  source.layers.any (·.origin = some name) || source.ended.contains name

def push (source : Source) (name value : Text) : Source :=
  let endsBlank := value.getLast? = some ' ' || value.getLast? = some '\t'
  { source with layers := ⟨value, some name, endsBlank⟩ :: source.layers }

def remainder (source : Source) : Text :=
  match source.layers.getLast? with
  | some layer => layer.text
  | none => []

end Source

end WorkerLint.Shell
