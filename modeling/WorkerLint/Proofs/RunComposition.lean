import WorkerLint.Proofs.LintRuns
import WorkerLint.Proofs.PrintedFindings

namespace WorkerLint

/-- An engine that leaves its surroundings as they are. -/
def Engine.Steady (engine : Engine σ) : Prop :=
  ∀ request state output after, engine.answer request state = .ok (output, after) → after = state

theorem Engine.steady_quiet (answer : Request → Except Fault EngineOutput) :
    (Engine.quiet answer : Engine σ).Steady := by
  intro request state output after answered
  simp only [Engine.quiet] at answered
  cases given : answer request with
  | error fault =>
      rw [given] at answered
      cases answered
  | ok output' =>
      rw [given] at answered
      cases answered
      rfl

namespace Lint

theorem settle_steady (engine : Engine σ) (steady : engine.Steady) (report : EngineOutput → Report)
    (request : Request) (state : σ) :
    (settle report state (engine.answer request state)).2 = state := by
  cases answered : engine.answer request state with
  | error fault => rfl
  | ok answer => exact steady request state answer.1 answer.2 answered

theorem file_steady (reader : Reader) (engine : Engine σ) (steady : engine.Steady) (path : Path)
    (state : σ) : (file reader engine path state).value.2 = state := by
  cases readable : reader.read path with
  | error fault => rw [file, readable]; rfl
  | ok text =>
      rcases file_cases reader engine path text readable state with
        ⟨_, alone⟩ | ⟨_, fault, _, stopped⟩ | ⟨_, imports, _, value, _⟩
      · rw [alone, direct_run]
        exact settle_steady engine steady _ _ state
      · rw [stopped]
      · rw [value, merged_run]
        exact settle_steady engine steady _ _ state

theorem complaints_merged (reader : Reader) (engine : Engine σ) (path : Path)
    (imports : List Text) (state : σ) :
    (merged reader engine path imports state).complaints = [] := by
  have none := (Bundle.quiet_assemble reader path imports).complaints
  rw [Traced.complaints] at none
  rw [merged_run, Traced.complaints, List.filterMap_append, none,
    Engine.filterMap_complaint_events]
  rfl

theorem complaints_direct (engine : Engine σ) (path : Path) (text : Text) (state : σ) :
    (direct engine path text state).complaints = [] := by
  rw [direct_run]
  exact engine.filterMap_complaint_events ⟨text, some path⟩

theorem complaints_file (reader : Reader) (engine : Engine σ) (path : Path) (state : σ) :
    (file reader engine path state).complaints = [] := by
  rw [file]
  cases reader.read path with
  | error fault => rfl
  | ok text =>
      by_cases mentioned : (Text.splitLines text).any Directive.mentions = true
      · simp only [mentioned, if_true]
        cases Directive.collect (Text.splitLines text) with
        | error fault => rfl
        | ok imports => exact complaints_merged reader engine path imports state
      · simp only [mentioned]
        exact complaints_direct engine path text state

end Lint

namespace Cli

def World.lint (world : World σ) (depth : Nat) (line : CommandLine) (state : σ) (file : Path) :
    Except Fault Report :=
  (Lint.file (world.reader state depth) (world.engine line) file state).value.1

def findingsOf : Except Fault Report → List Diagnostic
  | .ok report => report.diagnostics
  | .error _ => []

def complaintOf? (file : Path) : Except Fault Report → Option Text
  | .ok _ => none
  | .error fault => some (faultComplaint file fault)

section

variable (reader : σ → Reader) {engine : Engine σ}

/-- The first file adds what it comes to, and the others run as if it had not been there. -/
theorem lintEach_cons (steady : engine.Steady) (file : Path) (rest : List Path) (state : σ) :
    let outcome := (Lint.file (reader state) engine file state).value.1
    let others := lintEach reader engine rest state
    let result := lintEach reader engine (file :: rest) state
    result.value = (⟨findingsOf outcome ++ others.value.1.findings,
      !outcome.isOk || others.value.1.failed⟩, others.value.2) ∧
    result.complaints = (complaintOf? file outcome).toList ++ others.complaints := by
  intro outcome others result
  have left : (Lint.file (reader state) engine file state).value.2 = state :=
    Lint.file_steady (reader state) engine steady file state
  have silent := Lint.complaints_file (reader state) engine file state
  simp only [result, outcome, lintEach, Traced.get_bind, Traced.value_bindState,
    Traced.complaints_bindState, left, silent]
  cases (Lint.file (reader state) engine file state).value.1 <;>
  · refine ⟨rfl, ?_⟩
    simp only [Traced.complaints_bindState, Traced.complaints_lift, Traced.complaints_pureState,
      Traced.value_lift, List.append_nil]
    rfl

theorem lintEach_run (steady : engine.Steady) (files : List Path) (state : σ) :
    let lint file := (Lint.file (reader state) engine file state).value.1
    let result := lintEach reader engine files state
    result.value = (⟨files.flatMap fun file => findingsOf (lint file),
      files.any fun file => !(lint file).isOk⟩, state) ∧
    result.complaints = files.filterMap fun file => complaintOf? file (lint file) := by
  intro lint result
  induction files with
  | nil => exact ⟨rfl, rfl⟩
  | cons file rest ih =>
      obtain ⟨value, complaints⟩ := lintEach_cons reader steady file rest state
      obtain ⟨value', complaints'⟩ := ih
      refine ⟨?_, ?_⟩
      · rw [value, value']
        rfl
      · rw [complaints, complaints', List.filterMap_cons]
        cases complaintOf? file (lint file) <;> rfl

end

theorem events_complainAll (paths : List Path) :
    (complainAll paths).events = paths.map fun path => .complaint (missingComplaint path) := by
  induction paths with
  | nil => rfl
  | cons path rest ih => rw [complainAll, Traced.events_bind, ih]; rfl

theorem run_of_missing (world : World σ) (options : Options) (state : σ)
    (some : missing world options state ≠ []) :
    run world options state =
      ⟨(missing world options state).map fun path => .complaint (missingComplaint path),
        .ok ⟨1, []⟩, state⟩ := by
  rw [run, Traced.get_bind, if_pos some]
  apply Traced.ext
  · simp only [Traced.events_bindState, Traced.events_lift, Traced.events_pureState,
      events_complainAll, List.append_nil]
  · rfl

/-- The run ended with this code, left the world as it was, and showed these findings on its
standard output. -/
def Prints (world : World σ) (options : Options) (state : σ) (code : Nat)
    (findings : List Diagnostic) : Prop :=
  ∃ stdout, (run world options state).value = (.ok ⟨code, stdout⟩, state) ∧
    stdout = render options.format findings ∧ Findings.Shown options.format findings stdout

theorem run_of_present (world : World σ) (options : Options) (state : σ) (line : CommandLine)
    (present : missing world options state = [])
    (valid : CommandLine.parse options.engine options.config = .ok line) :
    let tally := lintEach (world.reader · options.depth) (world.engine line) options.files state
    run world options state =
      ⟨tally.events, .ok ⟨if tally.value.1.failed then 1 else 0,
        render options.format tally.value.1.findings⟩, tally.value.2⟩ := by
  intro tally
  rw [run, Traced.get_bind, if_neg (by simp [present]), valid]
  apply Traced.ext
  · simp only [Traced.events_bindState, Traced.events_pureState, List.append_nil, tally]
  · rfl

def exitCode (lint : Path → Except Fault Report) (files : List Path) : Nat :=
  if files.any fun file => !(lint file).isOk then 1 else 0

theorem exitCode_eq_one_iff (lint : Path → Except Fault Report) (files : List Path) :
    exitCode lint files = 1 ↔ ∃ file ∈ files, ∃ fault, lint file = .error fault := by
  have fails : ∀ file, (lint file).isOk = false ↔ ∃ fault, lint file = .error fault := by
    intro file
    cases lint file <;> simp [Except.isOk, Except.toBool]
  simp [exitCode, fails]

theorem exitCode_eq_zero_iff (lint : Path → Except Fault Report) (files : List Path) :
    exitCode lint files = 0 ↔ ∀ file ∈ files, ∃ report, lint file = .ok report := by
  have succeeds : ∀ file, (lint file).isOk = true ↔ ∃ report, lint file = .ok report := by
    intro file
    cases lint file <;> simp [Except.isOk, Except.toBool]
  simp [exitCode, succeeds]

theorem exitCode_append (lint : Path → Except Fault Report) (front back : List Path) :
    exitCode lint (front ++ back) = 1 ↔ exitCode lint front = 1 ∨ exitCode lint back = 1 := by
  simp only [exitCode_eq_one_iff, List.mem_append, or_and_right, exists_or]

theorem run_steady (world : World σ) (options : Options) (state : σ) (line : CommandLine)
    (present : missing world options state = [])
    (valid : CommandLine.parse options.engine options.config = .ok line)
    (steady : (world.engine line).Steady) :
    let lint := world.lint options.depth line state
    Prints world options state (exitCode lint options.files)
        (options.files.flatMap fun file => findingsOf (lint file)) ∧
      (run world options state).complaints =
        options.files.filterMap fun file => complaintOf? file (lint file) := by
  intro lint
  obtain ⟨value, complaints⟩ :=
    lintEach_run (world.reader · options.depth) steady options.files state
  have ran := run_of_present world options state line present valid
  refine ⟨⟨_, ?_, rfl, Findings.shown_render _ _⟩, ?_⟩
  · rw [ran, value]
    rfl
  · rw [ran]
    exact complaints

theorem missing_of_files (world : World σ) (options : Options) (state : σ) (files : List Path)
    (some : files ⊆ options.files) (present : missing world options state = []) :
    missing world { options with files := files } state = [] := by
  rw [missing, List.filter_eq_nil_iff] at present ⊢
  intro path member
  apply present path
  rcases List.mem_append.mp member with file | config
  · exact List.mem_append_left _ (some file)
  · exact List.mem_append_right _ config

def mixedWorld : World Unit :=
  let shelf : Shelf := ⟨[(⟨"a.js".toList⟩, some "foo();\n".toList),
    (⟨"b.js".toList⟩, some "f = importScripts;\n".toList)]⟩
  ⟨fun _ path => (shelf.reader.read path).isOk, fun _ _ => shelf.reader,
    fun _ => Engine.needle "foo".toList "stdin".toList⟩

end Cli

end WorkerLint
