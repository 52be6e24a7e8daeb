import WorkerLint.CommandLine
import WorkerLint.Engine
import WorkerLint.Text.Bytes

namespace WorkerLint

structure Exit where
  stdout : Bytes
  stderr : Bytes
  success : Bool
  deriving DecidableEq, Repr

structure Host (σ : Type) where
  scratch : Except Cause Path
  /-- Runs a command; the staged file is there while it runs, and gone afterwards. -/
  start : (staged : Option (Path × Text)) → (argv : List Bytes) → σ → Except Cause (Exit × σ)

/-- The lines a process printed, its standard output first. A failing exit is how linters report
findings, so the output counts either way. -/
def Exit.output (exit : Exit) : EngineOutput :=
  ⟨exit.success,
    Text.lines (Utf8.decodeLossy exit.stdout) ++ Text.lines (Utf8.decodeLossy exit.stderr)⟩

namespace CommandLine

def runningNote (argv : List Bytes) : Text :=
  "running ".toList ++ Text.join [' '] (Text.quotedCommand argv)

def target (host : Host σ) (request : Request) : Except Cause Path :=
  match request.file with
  | some file => .ok file
  | none => host.scratch

def staged (request : Request) (file : Path) : Option (Path × Text) :=
  match request.file with
  | some _ => none
  | none => some (file, request.text)

def startWords (host : Host σ) (stage : Option (Path × Text)) (argv : List Bytes) (state : σ) :
    Except Cause (EngineOutput × σ) :=
  if argv.any fun word => 0 ∈ word then .error .nulInWord
  else (host.start stage argv state).map fun (exit, after) => (exit.output, after)

def answer (line : CommandLine) (host : Host σ) (request : Request) (state : σ) :
    Except Fault (EngineOutput × σ) :=
  match target host request with
  | .error cause => .error (.engine line.command cause)
  | .ok file =>
    match startWords host (staged request file) (line.argv file) state with
    | .error cause => .error (.engine line.command cause)
    | .ok result => .ok result

def notes (line : CommandLine) (host : Host σ) (request : Request) : List Text :=
  match target host request with
  | .error _ => []
  | .ok file => [runningNote (line.argv file)]

def engine (line : CommandLine) (host : Host σ) : Engine σ :=
  ⟨line.answer host, line.notes host⟩

end CommandLine

end WorkerLint
