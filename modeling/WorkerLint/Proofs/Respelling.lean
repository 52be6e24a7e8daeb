import WorkerLint.Proofs.OwnFindings
import WorkerLint.Proofs.PathSpelling
import WorkerLint.Proofs.SingleCall

namespace WorkerLint

inductive Paired (faults : Fault → Fault → Prop) (values : α → α → Prop) :
    Except Fault α → Except Fault α → Prop
  | error {fault fault' : Fault} (alike : faults fault fault') :
      Paired faults values (.error fault) (.error fault')
  | ok {value value' : α} (alike : values value value') :
      Paired faults values (.ok value) (.ok value')

theorem Paired.outcomes {faults : Fault → Fault → Prop} {values : α → α → Prop}
    {first second : Except Fault α} (paired : Paired faults values first second) :
    (∃ fault fault', first = .error fault ∧ second = .error fault' ∧ faults fault fault') ∨
      ∃ value value', first = .ok value ∧ second = .ok value' ∧ values value value' := by
  cases paired with
  | error alike => exact Or.inl ⟨_, _, rfl, rfl, alike⟩
  | ok alike => exact Or.inr ⟨_, _, rfl, rfl, alike⟩

def Fault.Alike : Fault → Fault → Prop
  | .malformed line, .malformed line' => line = line'
  | .missing name root, .missing name' root' => name = name' ∧ root.same root' = true
  | .unreadable path cause, .unreadable path' cause' => path.same path' = true ∧ cause = cause'
  | .engine command cause, .engine command' cause' => command = command' ∧ cause = cause'
  | _, _ => False

theorem Fault.Alike.refl (fault : Fault) : fault.Alike fault := by
  cases fault <;> simp [Alike, Path.same]

structure Report.Respelled (path path' : Path) (report report' : Report) : Prop where
  mode : report.mode = report'.mode
  passed : report.passed = report'.passed
  findings : (report.diagnostics.map fun found => (found.line, found.message)) =
    report'.diagnostics.map fun found => (found.line, found.message)
  named : ∀ found ∈ report.diagnostics, found.file = path.spelling
  named' : ∀ found ∈ report'.diagnostics, found.file = path'.spelling

/-- Two runs hand the same requests to the engine and leave the same state, and they end in faults
that are alike or in reports that say the same. -/
structure Traced.Respelled (path path' : Path) (run run' : Traced (Except Fault Report × σ)) :
    Prop where
  calls : run.calls = run'.calls
  state : run.value.2 = run'.value.2
  outcome : Paired Fault.Alike (Report.Respelled path path') run.value.1 run'.value.1

namespace Reader

/-- The reader takes all spellings of a path alike: those of a directory lead to spellings of one
path or to none, and those of a file to one text or to one fault. A reader with a way of its own to
read lines keeps to this there. -/
structure RespectsPaths (reader : Reader) : Prop where
  locate : ∀ dir dir' name, dir.same dir' = true →
    Paired (fun _ _ => True) (fun path path' => path.same path' = true)
      (reader.locate dir name) (reader.locate dir' name)
  read : ∀ path path', path.same path' = true →
    Paired Fault.Alike Eq (reader.read path) (reader.read path')
  readLines : reader.Plain ∨ ∀ dir dir' name, dir.same dir' = true →
    Paired (fun _ _ => True) (fun script script' => script.1.same script'.1 = true ∧
      script.2 = script'.2) (reader.readLines dir name) (reader.readLines dir' name)

theorem RespectsPaths.read_eq_ok_iff {reader : Reader} (respects : reader.RespectsPaths)
    (path path' : Path) (same : path.same path' = true) (text : Text) :
    reader.read path = .ok text ↔ reader.read path' = .ok text := by
  rcases (respects.read path path' same).outcomes with
    ⟨fault, fault', unread, unread', _⟩ | ⟨text, text', read, read', rfl⟩
  · simp [unread, unread']
  · rw [read, read']

theorem RespectsPaths.lines {reader : Reader} (respects : reader.RespectsPaths)
    (dir dir' : Path) (name : Text) (same : dir.same dir' = true) :
    Paired (fun _ _ => True) (fun script script' => script.1.same script'.1 = true ∧
      script.2 = script'.2) (reader.readLines dir name) (reader.readLines dir' name) := by
  rcases respects.readLines with plain | own
  · rw [plain, readLinesBy, readLinesBy]
    rcases (respects.locate dir dir' name same).outcomes with
      ⟨fault, fault', lost, lost', _⟩ | ⟨path, path', located, located', near⟩
    · rw [lost, lost']
      exact .error trivial
    · rw [located, located']
      rcases (respects.read path path' near).outcomes with
        ⟨fault, fault', unread, unread', _⟩ | ⟨text, text', read, read', rfl⟩
      · simp only [unread, unread']
        exact .error trivial
      · simp only [read, read']
        exact .ok ⟨near, rfl⟩
  · exact own dir dir' name same

end Reader

namespace Shelf

theorem find?_respelled (shelf : Shelf) (path path' : Path) (same : path.same path' = true) :
    shelf.find? path = shelf.find? path' := by
  rw [Path.same_iff] at same
  simp only [find?, Path.same, same]

theorem reader_respectsPaths (shelf : Shelf) : shelf.reader.RespectsPaths where
  locate dir dir' name same := by
    have found := shelf.find?_respelled _ _ (Path.same_join dir dir' name same)
    change Paired _ _ (shelf.locate dir name) (shelf.locate dir' name)
    rw [locate, locate, found]
    split
    · exact .ok (Path.same_join dir dir' name same)
    · exact .error trivial
  read path path' same := by
    have found := shelf.find?_respelled path path' same
    change Paired _ _ (shelf.read path) (shelf.read path')
    rw [read, read, found]
    split
    · exact .error ⟨same, rfl⟩
    · exact .error ⟨same, rfl⟩
    · exact .ok rfl
  readLines := Or.inl shelf.reader_plain

end Shelf

namespace Bundle

theorem same_importDir (path path' : Path) (same : path.same path' = true) :
    (importDir path).same (importDir path') = true := by
  have parents := Path.map_parent?_eq path path' same
  rw [Path.same_iff, importDir, importDir]
  cases above : path.parent? with
  | none =>
      cases above' : path'.parent? with
      | none => rfl
      | some parent' => simp [above, above'] at parents
  | some parent =>
      cases above' : path'.parent? with
      | none => simp [above, above'] at parents
      | some parent' => simpa [above, above'] using parents

variable {reader : Reader} (respects : reader.RespectsPaths) {path path' : Path}
  (same : path.same path' = true)

include respects same

theorem importedScript?_respelled (name : Text) :
    (importedScript? reader path name).map Script.lines =
      (importedScript? reader path' name).map Script.lines := by
  rw [importedScript?, importedScript?]
  rcases (respects.lines _ _ name (same_importDir path path' same)).outcomes with
    ⟨fault, fault', lost, lost', _⟩ | ⟨⟨file, lines⟩, ⟨file', lines'⟩, found, found', near, alike⟩
  · rw [lost, lost']
  · rw [found, found']
    dsimp only at near alike ⊢
    have self : file.same path = file'.same path' := by
      rw [Path.same_iff] at near same
      rw [Path.same, Path.same, near, same]
    rw [self, alike]
    split <;> rfl

theorem keptImports_respelled (imports : List Text) :
    (keptImports reader path imports).map Script.lines =
      (keptImports reader path' imports).map Script.lines := by
  rw [keptImports, keptImports, List.map_filterMap, List.map_filterMap]
  congr 1
  funext name
  exact importedScript?_respelled respects same name

theorem primaryScript?_respelled :
    (primaryScript? reader path).map Script.lines =
      (primaryScript? reader path').map Script.lines := by
  rw [primaryScript?, primaryScript?]
  rcases (respects.read path path' same).outcomes with
    ⟨fault, fault', unread, unread', _⟩ | ⟨text, text', read, read', rfl⟩
  · rw [unread, unread']
  · rw [read, read']
    dsimp only
    split <;> rfl

omit respects same in
theorem lines_ofScripts (scripts : List Script) :
    (ofScripts scripts).lines = ((scripts.map Script.lines).map Script.prepare).flatten := by
  rw [List.map_map]
  rfl

theorem height_keptImports_respelled (imports : List Text) :
    height (keptImports reader path imports) = height (keptImports reader path' imports) := by
  rw [← length_ofScripts, ← length_ofScripts, lines_ofScripts, lines_ofScripts,
    keptImports_respelled respects same imports]

theorem text_assemble_respelled (imports : List Text) :
    (assemble reader path imports).value.text = (assemble reader path' imports).value.text := by
  have kept : (keptScripts reader path imports).map Script.lines =
      (keptScripts reader path' imports).map Script.lines := by
    rw [keptScripts, keptScripts, List.map_append, List.map_append, ← Option.toList_map,
      ← Option.toList_map, keptImports_respelled respects same imports,
      primaryScript?_respelled respects same]
  rw [text, text, assemble_value, assemble_value, lines_ofScripts, lines_ofScripts, kept]

end Bundle

namespace Lint

section

variable {reader : Reader} (respects : reader.RespectsPaths) {path path' : Path}
  (same : path.same path' = true)

include respects same

theorem exists_found_respelled (imports raw : List Text) :
    ∃ found : List (Nat × Text),
      Diagnostic.relocateAllTo (Bundle.assemble reader path imports).value.map path raw =
        found.map (fun (line, message) => ⟨path.spelling, line, message⟩) ∧
      Diagnostic.relocateAllTo (Bundle.assemble reader path' imports).value.map path' raw =
        found.map (fun (line, message) => ⟨path'.spelling, line, message⟩) := by
  by_cases present : ∃ text, reader.read path = .ok text ∧ text ≠ []
  · obtain ⟨text, readable, filled⟩ := present
    have readable' := (respects.read_eq_ok_iff path path' same text).mp readable
    have start := Bundle.height_keptImports_respelled respects same imports
    have carried :=
      relocateAllTo_assemble_of_readable reader path imports text readable filled raw
    have carried' :=
      relocateAllTo_assemble_of_readable reader path' imports text readable' filled raw
    rw [← start] at carried'
    refine ⟨((Diagnostic.parseAll raw).filter fun diagnostic =>
      1 + Bundle.height (Bundle.keptImports reader path imports) ≤ diagnostic.line).map
        fun diagnostic => (diagnostic.line -
          (1 + Bundle.height (Bundle.keptImports reader path imports)) + 1, diagnostic.message),
      ?_, ?_⟩
    · rw [carried, List.map_map]
      rfl
    · rw [carried', List.map_map]
      rfl
  · have absent' : ¬ ∃ text, reader.read path' = .ok text ∧ text ≠ [] := by
      rintro ⟨text, readable', filled⟩
      exact present ⟨text, (respects.read_eq_ok_iff path path' same text).mpr readable', filled⟩
    refine ⟨[], ?_, ?_⟩
    · exact relocateAllTo_assemble_of_absent reader path imports present raw
    · exact relocateAllTo_assemble_of_absent reader path' imports absent' raw

theorem mergedReport_respelled (imports : List Text) (output : EngineOutput) :
    Report.Respelled path path'
      (mergedReport (Bundle.assemble reader path imports).value path output)
      (mergedReport (Bundle.assemble reader path' imports).value path' output) := by
  obtain ⟨found, carried, carried'⟩ := exists_found_respelled respects same imports output.lines
  simp only [mergedReport, carried, carried']
  refine ⟨rfl, ?_, ?_, ?_, ?_⟩
  · simp only [List.isEmpty_map]
  · simp only [List.map_map]
    rfl
  · intro diagnostic member
    obtain ⟨_, _, rfl⟩ := List.mem_map.mp member
    rfl
  · intro diagnostic member
    obtain ⟨_, _, rfl⟩ := List.mem_map.mp member
    rfl

theorem merged_respelled (engine : Engine σ) (imports : List Text) (state : σ) :
    Traced.Respelled path path' (merged reader engine path imports state)
      (merged reader engine path' imports state) := by
  have texts := Bundle.text_assemble_respelled respects same imports
  have reports := mergedReport_respelled respects same imports
  refine ⟨?_, ?_, ?_⟩
  · rw [calls_merged, calls_merged, texts]
  · rw [merged_run, merged_run, texts]
    dsimp only
    cases engine.answer ⟨(Bundle.assemble reader path' imports).value.text, none⟩ state <;> rfl
  · rw [merged_run, merged_run, texts]
    dsimp only
    cases engine.answer ⟨(Bundle.assemble reader path' imports).value.text, none⟩ state with
    | error fault => exact .error (.refl fault)
    | ok result => exact .ok (reports result.1)

theorem file_respelled (engine : Engine σ) (state : σ)
    (mentioned : ∀ text, reader.read path = .ok text →
      ∃ line ∈ Text.splitLines text, Directive.token <:+: line) :
    Traced.Respelled path path' (file reader engine path state)
      (file reader engine path' state) := by
  rcases (respects.read path path' same).outcomes with
    ⟨fault, fault', unread, unread', alike⟩ | ⟨text, text', read, read', rfl⟩
  · rw [file_of_unreadable reader engine path state fault unread,
      file_of_unreadable reader engine path' state fault' unread']
    exact ⟨rfl, rfl, .error alike⟩
  · rcases Directive.lines_cases (Text.splitLines text) with
      unmentioned | ⟨line, first⟩ | ⟨some, formed⟩
    · obtain ⟨line, member, inside⟩ := mentioned text read
      exact absurd inside (unmentioned line member)
    · rw [file_of_malformed reader engine path state text line read first,
        file_of_malformed reader engine path' state text line read' first]
      exact ⟨rfl, rfl, .error (.refl _)⟩
    · obtain ⟨imports, collected⟩ := Directive.collect_of_wellFormed _ formed
      obtain ⟨value, calls⟩ :=
        file_of_imports reader engine path state text read imports some collected
      obtain ⟨value', calls'⟩ :=
        file_of_imports reader engine path' state text read' imports some collected
      obtain ⟨asked, left, outcome⟩ := merged_respelled respects same engine imports state
      exact ⟨by rw [calls, calls', asked], by rw [value, value', left],
        by rw [value, value']; exact outcome⟩

end

/-- Respelling the primary script changes the name it is reported under and nothing else, for every
reader that takes the spellings of a path alike, as a shelf does. The engine is handed the same
text, whether it is a merged run or the run of a file that mentions the directive, and a file that
cannot be read fails alike. -/
theorem respelled_runs :
    (∀ shelf : Shelf, shelf.reader.RespectsPaths) ∧
    ∀ (σ : Type) (reader : Reader), reader.RespectsPaths →
      ∀ (engine : Engine σ) (path path' : Path), path.same path' = true → ∀ state : σ,
        (∀ imports, Traced.Respelled path path' (merged reader engine path imports state)
          (merged reader engine path' imports state)) ∧
        ((∀ text, reader.read path = .ok text →
            ∃ line ∈ Text.splitLines text, Directive.token <:+: line) →
          Traced.Respelled path path' (file reader engine path state)
            (file reader engine path' state)) := by
  refine ⟨Shelf.reader_respectsPaths, ?_⟩
  intro σ reader respects engine path path' same state
  exact ⟨fun imports => merged_respelled respects same engine imports state,
    fun mentioned => file_respelled respects same engine state mentioned⟩

def importingShelf : Shelf :=
  ⟨[(⟨"w/a.js".toList⟩, some "a;\n".toList),
    (⟨"w/b.js".toList⟩, some "importScripts('a.js');\nfoo();\n".toList)]⟩

theorem respelled_runs_sample :
    let path : Path := ⟨"w/b.js".toList⟩
    let path' : Path := ⟨"w//./b.js/".toList⟩
    let engine : Engine Unit := Engine.needle "foo".toList "stdin".toList
    Traced.Respelled path path'
        (merged importingShelf.reader engine path ["a.js".toList, "b.js".toList] ())
        (merged importingShelf.reader engine path' ["a.js".toList, "b.js".toList] ()) ∧
      Traced.Respelled path path' (file importingShelf.reader engine path ())
        (file importingShelf.reader engine path' ()) := by
  intro path path' engine
  obtain ⟨shelves, runs⟩ := respelled_runs
  obtain ⟨bundled, alone⟩ := runs Unit importingShelf.reader (shelves importingShelf) engine
    path path' (by decide) ()
  refine ⟨bundled _, alone ?_⟩
  rintro _ ⟨⟩
  exact ⟨"importScripts('a.js');\n".toList, by decide,
    (Directive.mentions_eq_true_iff _).mp (by decide)⟩

end Lint

end WorkerLint
