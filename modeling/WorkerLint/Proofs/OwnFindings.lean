import WorkerLint.Proofs.LineOrigin
import WorkerLint.Proofs.LintRuns

namespace WorkerLint

namespace Bundle

theorem exists_of_source?_ofScripts (scripts : List Script)
    (filled : ∀ script ∈ scripts, script.lines ≠ []) (line : Nat) (file : Path) (offset : Nat)
    (found : (ofScripts scripts).map.source? line = some (file, offset)) :
    ∃ index script, scripts[index]? = some script ∧ file = script.path ∧
      startOf scripts index ≤ line := by
  have increasing : (ofScripts scripts).map.Increasing := spansFrom_increasing 1 scripts filled
  obtain ⟨span, there, named⟩ := Option.map_eq_some_iff.mp found
  obtain ⟨index, present, lower, _⟩ := (increasing.spanAt?_eq_some_iff line span).mp there
  rw [getElem?_spans_ofScripts] at present
  obtain ⟨script, kept, rfl⟩ := Option.map_eq_some_iff.mp present
  cases named
  exact ⟨index, script, kept, rfl, lower⟩

theorem startOf_append (front back : List Script) :
    startOf (front ++ back) front.length = 1 + height front := by
  simp [startOf]

end Bundle

namespace Diagnostic

open WorkerLint.Bundle

theorem relocateTo?_of_foreign (scripts : List Script)
    (filled : ∀ script ∈ scripts, script.lines ≠ []) (primary : Path) (diagnostic : Diagnostic)
    (foreign : ∀ index script, scripts[index]? = some script →
      startOf scripts index ≤ diagnostic.line → script.path.same primary = false) :
    relocateTo? (ofScripts scripts).map primary diagnostic = none := by
  rw [relocateTo?]
  cases found : (ofScripts scripts).map.source? diagnostic.line with
  | none => rfl
  | some origin =>
      obtain ⟨file, offset⟩ := origin
      obtain ⟨index, script, present, rfl, lower⟩ :=
        exists_of_source?_ofScripts scripts filled diagnostic.line file offset found
      simp [foreign index script present lower]

theorem relocateTo?_of_own (imported : List Script) (own : Script)
    (filled : ∀ script ∈ imported ++ [own], script.lines ≠ []) (diagnostic : Diagnostic)
    (foreign : ∀ script ∈ imported, script.path.same own.path = false) :
    relocateTo? (ofScripts (imported ++ [own])).map own.path diagnostic =
      if 1 + height imported ≤ diagnostic.line then
        some ⟨own.path.spelling, diagnostic.line - (1 + height imported) + 1, diagnostic.message⟩
      else none := by
  have start : startOf (imported ++ [own]) imported.length = 1 + height imported :=
    startOf_append imported [own]
  by_cases lower : 1 + height imported ≤ diagnostic.line
  · have present : (imported ++ [own])[imported.length]? = some own := by simp
    have origin := source?_ofScripts (imported ++ [own]) filled diagnostic.line imported.length own
      present (by omega) (fun more => by simp at more)
    rw [relocateTo?, origin, start, if_pos lower]
    simp [Path.same]
  · rw [if_neg lower]
    apply relocateTo?_of_foreign (imported ++ [own]) filled
    intro index script present early
    -- A script that starts by a line before the last one stands before it.
    have before : index < imported.length := by
      by_contra beyond
      have order := startOf_mono (imported ++ [own]) (show imported.length ≤ index by omega)
      omega
    rw [List.getElem?_append_left before] at present
    exact foreign script (List.mem_of_getElem? present)

theorem filterMap_shift (start : Nat) (file : Text) (found : List Diagnostic) :
    (found.filterMap fun diagnostic =>
      if start ≤ diagnostic.line then
        some (⟨file, diagnostic.line - start + 1, diagnostic.message⟩ : Diagnostic)
      else none) =
      (found.filter fun diagnostic => start ≤ diagnostic.line).map fun diagnostic =>
        ⟨file, diagnostic.line - start + 1, diagnostic.message⟩ := by
  induction found with
  | nil => rfl
  | cons diagnostic rest ih =>
      by_cases lower : start ≤ diagnostic.line
      · simp [lower, ih]
      · simp [lower, ih]

end Diagnostic

namespace Lint

theorem relocateTo?_assemble_of_readable (reader : Reader) (path : Path) (imports : List Text)
    (text : Text) (readable : reader.read path = .ok text) (filled : text ≠ [])
    (diagnostic : Diagnostic) :
    let start := 1 + Bundle.height (Bundle.keptImports reader path imports)
    Diagnostic.relocateTo? (Bundle.assemble reader path imports).value.map path diagnostic =
      if start ≤ diagnostic.line then
        some ⟨path.spelling, diagnostic.line - start + 1, diagnostic.message⟩
      else none := by
  have kept := Bundle.keptScripts_of_readable reader path imports text readable filled
  have present := Bundle.keptScripts_filled reader path imports
  rw [Bundle.assemble_value, kept]
  rw [kept] at present
  exact Diagnostic.relocateTo?_of_own (Bundle.keptImports reader path imports)
    ⟨path, Text.splitLines text⟩ present diagnostic
    (Bundle.keptImports_foreign reader path imports)

theorem relocateTo?_assemble_of_absent (reader : Reader) (path : Path) (imports : List Text)
    (absent : ¬ ∃ text, reader.read path = .ok text ∧ text ≠ []) (diagnostic : Diagnostic) :
    Diagnostic.relocateTo? (Bundle.assemble reader path imports).value.map path diagnostic =
      none := by
  rw [Bundle.assemble_value, Bundle.keptScripts_of_absent reader path imports absent]
  apply Diagnostic.relocateTo?_of_foreign _ (Bundle.keptImports_filled reader path imports)
  intro index script present _
  exact Bundle.keptImports_foreign reader path imports script (List.mem_of_getElem? present)

theorem relocateAllTo_assemble_of_readable (reader : Reader) (path : Path) (imports : List Text)
    (text : Text) (readable : reader.read path = .ok text) (filled : text ≠ [])
    (raw : List Text) :
    let start := 1 + Bundle.height (Bundle.keptImports reader path imports)
    Diagnostic.relocateAllTo (Bundle.assemble reader path imports).value.map path raw =
      ((Diagnostic.parseAll raw).filter fun diagnostic => start ≤ diagnostic.line).map
        fun diagnostic => ⟨path.spelling, diagnostic.line - start + 1, diagnostic.message⟩ := by
  intro start
  have carried : Diagnostic.relocateTo? (Bundle.assemble reader path imports).value.map path = _ :=
    funext (relocateTo?_assemble_of_readable reader path imports text readable filled)
  rw [Diagnostic.relocateAllTo, carried]
  exact Diagnostic.filterMap_shift start path.spelling (Diagnostic.parseAll raw)

theorem relocateAllTo_assemble_of_absent (reader : Reader) (path : Path) (imports : List Text)
    (absent : ¬ ∃ text, reader.read path = .ok text ∧ text ≠ []) (raw : List Text) :
    Diagnostic.relocateAllTo (Bundle.assemble reader path imports).value.map path raw = [] := by
  apply List.filterMap_eq_nil_iff.mpr
  intro diagnostic _
  exact relocateTo?_assemble_of_absent reader path imports absent diagnostic

theorem line_lt_of_imported (reader : Reader) (path : Path) (imports : List Text)
    (line index offset : Nat) (imported : index < (Bundle.keptImports reader path imports).length)
    (place : Bundle.StandsAt (Bundle.keptScripts reader path imports) line index offset) :
    line < 1 + Bundle.height (Bundle.keptImports reader path imports) := by
  have upper := place.upper
  have order := Bundle.startOf_mono (Bundle.keptScripts reader path imports)
    (show index + 1 ≤ (Bundle.keptImports reader path imports).length by omega)
  rw [Bundle.keptScripts, Bundle.startOf_append, ← Bundle.keptScripts] at order
  omega

/-- When the engine answers, a merged run reports what the engine says about the lines of the
primary script, under the numbers they have there and in the order it is said, and nothing else.
The verdict is that there is nothing to report, whatever the engine's was. -/
theorem merged_report (reader : Reader) (engine : Engine σ) (path : Path) (imports : List Text)
    (state after : σ) (output : EngineOutput)
    (answered : engine.answer ⟨(Bundle.assemble reader path imports).value.text, none⟩ state =
      .ok (output, after)) :
    let bundle := (Bundle.assemble reader path imports).value
    let imported := Bundle.keptImports reader path imports
    let start := 1 + Bundle.height imported
    let said := Diagnostic.parseAll output.lines
    ∃ report, (merged reader engine path imports state).value = (.ok report, after) ∧
      report.mode = .merged ∧
      (report.passed = true ↔ report.diagnostics = []) ∧
      (∀ text, reader.read path = .ok text → text ≠ [] →
        report.diagnostics =
          (said.filter fun diagnostic => start ≤ diagnostic.line).map fun diagnostic =>
            ⟨path.spelling, diagnostic.line - start + 1, diagnostic.message⟩) ∧
      ((¬ ∃ text, reader.read path = .ok text ∧ text ≠ []) → report.diagnostics = []) ∧
      report.diagnostics = said.filterMap (Diagnostic.relocateTo? bundle.map path) ∧
      (∀ diagnostic : Diagnostic, (diagnostic.line = 0 ∨ ∃ index offset,
          index < imported.length ∧
            Bundle.StandsAt (Bundle.keptScripts reader path imports) diagnostic.line index offset) →
        Diagnostic.relocateTo? bundle.map path diagnostic = none) := by
  intro bundle imported start said
  refine ⟨_, merged_value reader engine path imports state after output answered, rfl,
    List.isEmpty_iff, ?_, ?_, rfl, ?_⟩
  · intro text readable filled
    exact relocateAllTo_assemble_of_readable reader path imports text readable filled output.lines
  · intro absent
    exact relocateAllTo_assemble_of_absent reader path imports absent output.lines
  · intro diagnostic outside
    have early : diagnostic.line < start := by
      rcases outside with zero | ⟨index, offset, inside, place⟩
      · omega
      · exact line_lt_of_imported reader path imports diagnostic.line index offset inside place
    by_cases absent : ∃ text, reader.read path = .ok text ∧ text ≠ []
    · obtain ⟨text, readable, filled⟩ := absent
      rw [relocateTo?_assemble_of_readable reader path imports text readable filled diagnostic]
      exact if_neg (Nat.not_le_of_lt early)
    · exact relocateTo?_assemble_of_absent reader path imports absent diagnostic

def sampleOutput : EngineOutput :=
  ⟨true, ["x: line 0,n".toList, "x: line 2,i".toList, "x: line 4,p".toList, "x: line 9,q".toList]⟩

theorem merged_report_sample :
    ∃ report, (merged Bundle.sampleShelf.reader (Engine.canned sampleOutput) Bundle.samplePath
        ["a.js".toList] ()).value = (.ok report, ()) ∧
      report.passed = false ∧
      report.diagnostics =
        [⟨"w/b.js".toList, 2, "p".toList⟩, ⟨"w/b.js".toList, 7, "q".toList⟩] := by
  obtain ⟨report, value, _, verdict, kept, _⟩ := merged_report Bundle.sampleShelf.reader
    (Engine.canned sampleOutput) Bundle.samplePath ["a.js".toList] () () sampleOutput rfl
  have diagnostics : report.diagnostics =
      [⟨"w/b.js".toList, 2, "p".toList⟩, ⟨"w/b.js".toList, 7, "q".toList⟩] :=
    (kept "b;\nc;\n".toList rfl (by decide)).trans (by decide)
  refine ⟨report, value, ?_, diagnostics⟩
  rw [Bool.eq_false_iff, ne_eq, verdict, diagnostics]
  exact List.cons_ne_nil _ _

end Lint

end WorkerLint
