import WorkerLint.Fault
import WorkerLint.Trace

namespace WorkerLint

structure EngineOutput where
  passed : Bool
  lines : List Text
  deriving DecidableEq, Repr

/-- An engine answers what it is asked, and logs some notes about it. It may change the state of
its surroundings, if it answers. -/
structure Engine (σ : Type) where
  answer : Request → σ → Except Fault (EngineOutput × σ)
  notes : Request → List Text

namespace Engine

def call (engine : Engine σ) (request : Request) :
    StateT σ Traced (Except Fault EngineOutput) := fun state =>
  let events := .call request :: (engine.notes request).map (.note .engine)
  match engine.answer request state with
  | .ok (output, after) => ⟨events, (.ok output, after)⟩
  | .error fault => ⟨events, (.error fault, state)⟩

def quiet (answer : Request → Except Fault EngineOutput) : Engine σ :=
  ⟨fun request state => (answer request).map fun output => (output, state), fun _ => []⟩

def hits (needle : Text) : Nat → List Text → List Nat
  | _, [] => []
  | first, piece :: rest =>
    if Text.contains needle piece then first :: hits needle (first + 1) rest
    else hits needle (first + 1) rest

def hitLine (id needle : Text) (number : Nat) : Text :=
  id ++ ": line ".toList ++ Text.ofNat number ++ ",found ".toList ++ needle

/-- Reports every line of the text that contains the needle, under the name of the file or under
an identity of its own. -/
def needle (needle id : Text) : Engine σ :=
  quiet fun request =>
    let found := hits needle 1 (Text.pieces '\n' request.text)
    let shown := (request.file.map Path.spelling).getD id
    .ok ⟨found.isEmpty, "banner line".toList :: found.map (hitLine shown needle)⟩

def canned (output : EngineOutput) : Engine σ :=
  quiet fun _ => .ok output

def failing (fault : Fault) : Engine σ :=
  quiet fun _ => .error fault

end Engine

end WorkerLint
