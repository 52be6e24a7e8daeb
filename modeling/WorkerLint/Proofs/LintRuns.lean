import WorkerLint.Lint

namespace WorkerLint

namespace Bundle

theorem Draft.quiet_add (draft : Draft) (script : Script) : (draft.add script).Quiet := by
  rw [add]
  split
  · exact Traced.quiet_pure draft
  · exact (Traced.quiet_note _ _).bind (Traced.quiet_pure _)

theorem quiet_addImport (reader : Reader) (primary : Path) (draft : Draft) (name : Text) :
    (addImport reader primary draft name).Quiet := by
  rw [addImport]
  split
  · exact (Traced.quiet_note _ _).bind (Traced.quiet_pure _)
  · split
    · exact (Traced.quiet_note _ _).bind (Traced.quiet_pure _)
    · exact draft.quiet_add _

theorem quiet_addImports (reader : Reader) (primary : Path) (draft : Draft)
    (imports : List Text) : (addImports reader primary draft imports).Quiet := by
  induction imports generalizing draft with
  | nil => exact Traced.quiet_pure draft
  | cons name rest ih => exact (quiet_addImport reader primary draft name).bind (ih _)

theorem quiet_readPrimary (reader : Reader) (primary : Path) :
    (readPrimary reader primary).Quiet := by
  rw [readPrimary]
  split
  · exact (Traced.quiet_note _ _).bind (Traced.quiet_pure _)
  · exact Traced.quiet_pure _

theorem quiet_assemble (reader : Reader) (primary : Path) (imports : List Text) :
    (assemble reader primary imports).Quiet := by
  rw [assemble]
  refine (quiet_readPrimary reader primary).bind
    ((quiet_addImports reader primary _ imports).bind ?_)
  split
  · exact (Draft.quiet_add _ _).bind (Traced.quiet_pure _)
  · exact Traced.quiet_pure _

end Bundle

namespace Engine

def events (engine : Engine σ) (request : Request) : List Event :=
  .call request :: (engine.notes request).map (.note .engine)

theorem filterMap_call_events (engine : Engine σ) (request : Request) :
    (engine.events request).filterMap Event.call? = [request] := by
  simp [events, List.filterMap_map, Function.comp_def, Event.call?]

theorem filterMap_complaint_events (engine : Engine σ) (request : Request) :
    (engine.events request).filterMap Event.complaint? = [] := by
  simp [events, Event.complaint?]

end Engine

namespace Lint

def directReport (output : EngineOutput) : Report :=
  ⟨.direct, output.passed, Diagnostic.parseAll output.lines⟩

def mergedReport (bundle : Bundle) (path : Path) (output : EngineOutput) : Report :=
  let diagnostics := Diagnostic.relocateAllTo bundle.map path output.lines
  ⟨.merged, diagnostics.isEmpty, diagnostics⟩

/-- What becomes of the engine's answer: a report of its output, or its own fault and the state as
it was. -/
def settle (report : EngineOutput → Report) (state : σ) :
    Except Fault (EngineOutput × σ) → Except Fault Report × σ
  | .ok (output, after) => (.ok (report output), after)
  | .error fault => (.error fault, state)

theorem merged_run (reader : Reader) (engine : Engine σ) (path : Path) (imports : List Text)
    (state : σ) :
    let bundle := Bundle.assemble reader path imports
    let request : Request := ⟨bundle.value.text, none⟩
    merged reader engine path imports state =
      ⟨bundle.events ++ engine.events request,
        settle (mergedReport bundle.value path) state (engine.answer request state)⟩ := by
  intro bundle request
  apply Traced.ext
  · simp only [merged, Traced.events_bindState, Traced.events_lift, Traced.value_lift, Engine.call]
    cases engine.answer request state <;> simp [Engine.events, bundle, request]
  · simp only [merged, Traced.value_bindState, Traced.value_lift, Engine.call]
    cases engine.answer request state <;> rfl

theorem direct_run (engine : Engine σ) (path : Path) (text : Text) (state : σ) :
    let request : Request := ⟨text, some path⟩
    direct engine path text state =
      ⟨.note .lint (directNote path) :: engine.events request,
        settle directReport state (engine.answer request state)⟩ := by
  intro request
  apply Traced.ext
  · simp only [direct, Traced.events_bindState, Traced.events_lift, Traced.value_lift, Engine.call]
    cases engine.answer request state <;> simp [Engine.events, request]
  · simp only [direct, Traced.value_bindState, Traced.value_lift, Engine.call]
    cases engine.answer request state <;> rfl

theorem calls_merged (reader : Reader) (engine : Engine σ) (path : Path) (imports : List Text)
    (state : σ) :
    (merged reader engine path imports state).calls =
      [⟨(Bundle.assemble reader path imports).value.text, none⟩] := by
  have none := (Bundle.quiet_assemble reader path imports).calls
  rw [Traced.calls] at none
  rw [merged_run, Traced.calls, List.filterMap_append, none, Engine.filterMap_call_events]
  rfl

theorem merged_value (reader : Reader) (engine : Engine σ) (path : Path) (imports : List Text)
    (state after : σ) (output : EngineOutput)
    (answered : engine.answer ⟨(Bundle.assemble reader path imports).value.text, none⟩ state =
      .ok (output, after)) :
    let diagnostics := Diagnostic.relocateAllTo (Bundle.assemble reader path imports).value.map
      path output.lines
    (merged reader engine path imports state).value =
      (.ok ⟨.merged, diagnostics.isEmpty, diagnostics⟩, after) := by
  rw [merged_run, answered]
  rfl

theorem calls_direct (engine : Engine σ) (path : Path) (text : Text) (state : σ) :
    (direct engine path text state).calls = [⟨text, some path⟩] := by
  rw [direct_run]
  exact engine.filterMap_call_events ⟨text, some path⟩

theorem direct_value (engine : Engine σ) (path : Path) (text : Text) (state after : σ)
    (output : EngineOutput)
    (answered : engine.answer ⟨text, some path⟩ state = .ok (output, after)) :
    (direct engine path text state).value =
      (.ok ⟨.direct, output.passed, Diagnostic.parseAll output.lines⟩, after) := by
  rw [direct_run, answered]
  rfl

theorem file_cases (reader : Reader) (engine : Engine σ) (path : Path) (text : Text)
    (readable : reader.read path = .ok text) (state : σ) :
    ((Text.splitLines text).any Directive.mentions = false ∧
      file reader engine path state = direct engine path text state) ∨
    ((Text.splitLines text).any Directive.mentions = true ∧
      ∃ fault, Directive.collect (Text.splitLines text) = .error fault ∧
        file reader engine path state = ⟨[], .error fault, state⟩) ∨
    ((Text.splitLines text).any Directive.mentions = true ∧
      ∃ imports, Directive.collect (Text.splitLines text) = .ok imports ∧
        (file reader engine path state).value =
          (merged reader engine path imports state).value ∧
        (file reader engine path state).calls =
          (merged reader engine path imports state).calls) := by
  rw [file, readable]
  dsimp only
  cases mentioned : (Text.splitLines text).any Directive.mentions with
  | false => exact Or.inl ⟨rfl, rfl⟩
  | true =>
      right
      cases collected : Directive.collect (Text.splitLines text) with
      | error fault => exact Or.inl ⟨rfl, fault, rfl, rfl⟩
      | ok imports =>
          refine Or.inr ⟨rfl, imports, rfl, rfl, ?_⟩
          simp

end Lint

end WorkerLint
