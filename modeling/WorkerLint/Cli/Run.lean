import WorkerLint.Cli.LogFilter
import WorkerLint.Cli.Options
import WorkerLint.Engine.Process
import WorkerLint.Findings
import WorkerLint.Lint
import WorkerLint.Text.Terminal

namespace WorkerLint.Cli

/-- What the program deals with, in a state that engines may change: which paths exist, scripts
read with a search depth, and the engine that a command line means. -/
structure World (σ : Type) where
  present : σ → Path → Bool
  reader : σ → (depth : Nat) → Reader
  engine : CommandLine → Engine σ

def World.ofHost (host : Host Disk) : World Disk :=
  ⟨Disk.hasEntry, Disk.reader, fun line => line.engine host⟩

structure Tally where
  findings : List Diagnostic
  failed : Bool
  deriving DecidableEq, Repr

def reportNote (file : Path) (report : Report) : Text :=
  file.spelling ++ ": ".toList ++ report.mode.name ++ ", ".toList ++
    Text.ofNat report.diagnostics.length ++ " diagnostics".toList

def faultComplaint (file : Path) (fault : Fault) : Text :=
  Text.join ": ".toList (("linting ".toList ++ file.spelling) :: fault.chain)

def missingComplaint (path : Path) : Text :=
  path.spelling ++ ": no such file".toList

/-- Lints files in order. A file that cannot be linted is complained about, and the rest still
run. -/
def lintEach (reader : σ → Reader) (engine : Engine σ) : List Path → StateT σ Traced Tally
  | [] => pure ⟨[], false⟩
  | file :: rest => do
    match ← Lint.file (reader (← get)) engine file with
    | .error fault =>
      Traced.tell (.complaint (faultComplaint file fault))
      let more ← lintEach reader engine rest
      pure ⟨more.findings, true⟩
    | .ok report =>
      Traced.note .program (reportNote file report)
      let more ← lintEach reader engine rest
      pure ⟨report.diagnostics ++ more.findings, more.failed⟩

def render : Format → List Diagnostic → Text
  | .text, findings => Findings.text findings
  | .json, findings => Findings.json findings ++ ['\n']

structure Outcome where
  code : Nat
  stdout : Text
  deriving DecidableEq, Repr

def complainAll : List Path → Traced Unit
  | [] => pure ()
  | path :: rest => do
    Traced.tell (.complaint (missingComplaint path))
    complainAll rest

def missing (world : World σ) (options : Options) (state : σ) : List Path :=
  (options.files ++ options.config.toList).filter (!world.present state ·)

/-- Runs with options. Nothing is linted if a path is missing; findings alone are no failure. -/
def run (world : World σ) (options : Options) : StateT σ Traced (Except Fault Outcome) := do
  let absent := missing world options (← get)
  if absent ≠ [] then
    complainAll absent
    pure (.ok ⟨1, []⟩)
  else
    match CommandLine.parse options.engine options.config with
    | .error fault => pure (.error fault)
    | .ok line =>
      let tally ← lintEach (world.reader · options.depth) (world.engine line) options.files
      pure (.ok ⟨if tally.failed then 1 else 0, render options.format tally.findings⟩)

def engineRefused : Text :=
  "invalid --engine command".toList

def refusalChain (fault : Fault) : List Text :=
  engineRefused :: fault.chain

def complaintLine (message : Text) : Text :=
  "importlint: ".toList ++ message ++ ['\n']

def indented (indent : Nat) (text : Text) : Text :=
  text.flatMap fun c => if c = '\n' then c :: List.replicate indent ' ' else [c]

def noteLine (topic : Topic) (message : Text) : Text :=
  Terminal.plain
    ("[DEBUG ".toList ++ topic.target ++ "] ".toList ++ indented 4 message ++ ['\n'])

def eventLine (filter : LogFilter) : Event → Text
  | .complaint message => complaintLine message
  | .note topic message => if filter.shows topic message then noteLine topic message else []
  | .call _ => []

def causeLines : Nat → List Text → Text
  | _, [] => []
  | number, cause :: rest =>
    "    ".toList ++ Text.ofNat number ++ ": ".toList ++ indented 7 cause ++ ['\n'] ++
      causeLines (number + 1) rest

def refusalText (fault : Fault) : Text :=
  "Error: ".toList ++ engineRefused ++ "\n\nCaused by:\n".toList ++ causeLines 0 fault.chain

def versionText : Text :=
  "importlint 0.3.0\n".toList

def helpText (engine : Option Text) : Text :=
  "Lint worker scripts together with the files they pull in through importScripts()\n\n".toList ++
    "Usage: importlint [OPTIONS] <FILES>...\n\n".toList ++
    "Arguments:\n  <FILES>...  Scripts to lint\n\n".toList ++
    "Options:\n  -c, --config <CONFIG>              ".toList ++
    "Linter configuration file, passed through to the engine\n".toList ++
    "  -v, --verbose                      Log merge decisions and engine invocations\n".toList ++
    "      --engine <ENGINE>              ".toList ++
    "Lint command; split shell-style, the file to lint is appended ".toList ++
    "[env: IMPORTLINT_ENGINE=".toList ++ engine.getD [] ++ "] [default: jshint]\n".toList ++
    "      --search-depth <SEARCH_DEPTH>  ".toList ++
    "How many directory levels to search for an imported script [default: 3]\n".toList ++
    "      --format <FORMAT>              ".toList ++
    "[default: text] [possible values: text, json]\n".toList ++
    "  -h, --help                         Print help\n".toList ++
    "  -V, --version                      Print version\n".toList

structure Environment where
  engine : Option Text
  logSpec : Option Text
  deriving DecidableEq, Repr

structure Finished where
  code : Nat
  stdout : Text
  stderr : Text
  deriving DecidableEq, Repr

/-- Warnings are logged by default, and notes if asked for; the environment wins over both. -/
def logFilter (environment : Environment) (verbose : Bool) : LogFilter × List SpecFault :=
  LogFilter.ofSpec (environment.logSpec.getD (if verbose then "debug".toList else "warn".toList))

def specWarning (fault : SpecFault) : Text :=
  "warning: ".toList ++ fault.message ++ ", ignoring it\n".toList

/-- What is wrong with the arguments. The words at fault are not repeated in it. -/
def Usage.reason : Usage → Text
  | .missingFiles =>
    "the following required arguments were not provided:\n  <FILES>...".toList
  | .unknownArgument => "unexpected argument found".toList
  | .invalidValue => "invalid value for an option".toList
  | .badNumber => "invalid value for '--search-depth <SEARCH_DEPTH>'".toList
  | .repeated => "an argument cannot be used multiple times".toList
  | .needlessValue => "unexpected value for an option found; no more were expected".toList
  | .help => []
  | .version => []

def Usage.form : Usage → Text
  | .invalidValue => []
  | .badNumber => []
  | .missingFiles => "Usage: importlint <FILES>...\n\n".toList
  | _ => "Usage: importlint [OPTIONS] <FILES>...\n\n".toList

def usageMessage (usage : Usage) : Text :=
  "error: ".toList ++ usage.reason ++ "\n\n".toList ++ usage.form ++
    "For more information, try '--help'.\n".toList

def finishUsage (environment : Environment) (usage : Usage) : Finished :=
  match usage with
  | .help => ⟨0, helpText environment.engine, []⟩
  | .version => ⟨0, versionText, []⟩
  | _ => ⟨usage.exitCode, [], usageMessage usage⟩

def program (world : World σ) (environment : Environment) (args : List Text) (state : σ) :
    Finished × σ :=
  match parse environment.engine args with
  | .error usage => (finishUsage environment usage, state)
  | .ok options =>
    let result := run world options state
    let (value, after) := result.value
    let (filter, faults) := logFilter environment options.verbose
    let log := faults.flatMap specWarning ++ result.events.flatMap (eventLine filter)
    match value with
    | .ok outcome => (⟨outcome.code, outcome.stdout, log⟩, after)
    | .error fault => (⟨1, [], log ++ refusalText fault⟩, after)

end WorkerLint.Cli
