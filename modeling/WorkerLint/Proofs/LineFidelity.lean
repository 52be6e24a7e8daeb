import WorkerLint.Proofs.DiagnosticMarks
import WorkerLint.Proofs.LineSplitting
import WorkerLint.Proofs.OwnFindings
import WorkerLint.Proofs.PhysicalLines
import Mathlib.Data.List.Basic

namespace WorkerLint

namespace Engine

theorem hits_append (needle : Text) (first : Nat) (front back : List Text) :
    hits needle first (front ++ back) =
      hits needle first front ++ hits needle (first + front.length) back := by
  induction front generalizing first with
  | nil => rfl
  | cons piece rest ih =>
      have next : first + 1 + rest.length = first + (piece :: rest).length := by
        simp only [List.length_cons]
        omega
      by_cases inside : Text.contains needle piece = true
      · simp [hits, inside, ih, next]
      · simp [hits, inside, ih, next]

theorem hits_bounds (needle : Text) (first : Nat) (pieces : List Text) :
    ∀ number ∈ hits needle first pieces, first ≤ number ∧ number < first + pieces.length := by
  induction pieces generalizing first with
  | nil =>
      intro number member
      cases member
  | cons piece rest ih =>
      intro number member
      have later : number ∈ hits needle (first + 1) rest →
          first ≤ number ∧ number < first + (piece :: rest).length := by
        intro member
        have bounds := ih (first + 1) number member
        simp only [List.length_cons]
        omega
      rw [hits] at member
      split at member
      · rcases List.mem_cons.mp member with rfl | member
        · simp
        · exact later member
      · exact later member

theorem hits_add (needle : Text) (first offset : Nat) (pieces : List Text) :
    hits needle (first + offset) pieces = (hits needle first pieces).map (· + offset) := by
  induction pieces generalizing first with
  | nil => rfl
  | cons piece rest ih =>
      have next : first + offset + 1 = first + 1 + offset := by omega
      by_cases inside : Text.contains needle piece = true
      · simp [hits, inside, next, ih]
      · simp [hits, inside, next, ih]

theorem hits_eq_nil (needle : Text) (first : Nat) (pieces : List Text)
    (outside : ∀ piece ∈ pieces, Text.contains needle piece = false) :
    hits needle first pieces = [] := by
  induction pieces generalizing first with
  | nil => rfl
  | cons piece rest ih =>
      rw [hits, outside piece List.mem_cons_self]
      exact ih (first + 1) fun other member => outside other (List.mem_cons_of_mem piece member)

theorem hits_eq_filterMap (needle : Text) (first : Nat) (pieces : List Text) :
    hits needle first pieces = (pieces.zipIdx first).filterMap fun (piece, number) =>
      if Text.contains needle piece then some number else none := by
  induction pieces generalizing first with
  | nil => rfl
  | cons piece rest ih =>
      by_cases inside : Text.contains needle piece = true
      · simp [hits, inside, ih]
      · simp [hits, inside, ih]

theorem hits_bodies (needle : Text) (filled : needle ≠ []) (first : Nat) (text : Text) :
    hits needle first (Text.pieces '\n' text) = hits needle first (Text.bodies text) := by
  have vacant : Text.contains needle [] = false := by
    simpa [Text.contains] using filled
  induction text using Text.lineInduction generalizing first with
  | flat text flat =>
      rw [Text.pieces_of_flat '\n' text flat]
      by_cases none : text = []
      · simp [none, Text.bodies_nil, hits, vacant]
      · rw [Text.bodies_of_flat text none flat]
  | line body rest flat ih =>
      rw [Text.pieces_append_sep '\n' body rest flat, Text.bodies_append_lineFeed body rest flat,
        hits, hits, ih]

def hit (file needle : Text) (number : Nat) : Diagnostic :=
  ⟨file, number, "found ".toList ++ needle⟩

@[simp]
theorem hit_line (file needle : Text) (number : Nat) : (hit file needle number).line = number := rfl

theorem hitLine_eq_render (id needle : Text) (number : Nat) :
    hitLine id needle number = (hit id needle number).render := by
  change id ++ Diagnostic.lineMark ++ Text.ofNat number ++ (',' :: "found ".toList) ++ needle = _
  rw [List.append_assoc]
  rfl

theorem hits_bodies_eq_nil (needle : Text) (first : Nat) (text : Text) (broken : '\n' ∈ needle) :
    hits needle first (Text.bodies text) = [] := by
  apply hits_eq_nil
  intro body member
  rw [Bool.eq_false_iff, ne_eq, Text.contains_eq_true_iff]
  intro inside
  exact Text.bodies_flat text body member (inside.subset broken)

def printed (shown needle text : Text) : List Text :=
  "banner line".toList :: (hits needle 1 (Text.pieces '\n' text)).map (hitLine shown needle)

theorem parseAll_printed (id needle text : Text) (filled : needle ≠ [])
    (ended : needle.getLast? ≠ some '\r') (flat : '\n' ∉ id) (unmarked : Diagnostic.Unmarked id)
    (small : text.length < Text.wordBound) :
    Diagnostic.parseAll (printed id needle text) =
      (hits needle 1 (Text.bodies text)).map (hit id needle) := by
  have banner : Diagnostic.parse? "banner line".toList = none := by decide
  rw [printed, hits_bodies needle filled, Diagnostic.parseAll, List.filterMap_cons_none banner]
  by_cases broken : '\n' ∈ needle
  · rw [hits_bodies_eq_nil needle 1 text broken]
    rfl
  · have size := Text.length_bodies_le text
    have reads : ∀ number ∈ hits needle 1 (Text.bodies text),
        Diagnostic.parse? (hitLine id needle number) = some (hit id needle number) := by
      intro number member
      have bounds := hits_bounds needle 1 (Text.bodies text) number member
      rw [hitLine_eq_render]
      apply Diagnostic.parse?_render
      · exact flat
      · exact unmarked
      · rw [hit_line]
        omega
      · simpa [hit] using broken
      · rw [hit, List.getLast?_append_of_ne_nil _ filled]
        exact ended
    rw [List.filterMap_map]
    exact List.filterMap_eq_map_iff_forall_eq_some.mpr reads

end Engine

namespace Script

/-- Wrapping the script, should it be strict, makes no new line with the needle. -/
def Undisturbed (needle text : Text) : Prop :=
  (∃ pragma ∈ strictPragmas, Text.contains pragma text = true) →
    Text.contains needle closerBody = false ∧
      ∀ first, (Text.pieces '\n' text).head? = some first →
        Text.contains needle (scopeOpener ++ first) = true → Text.contains needle first = true

theorem contains_of_isStrict (text : Text) (strict : isStrict (Text.splitLines text) = true) :
    ∃ pragma ∈ strictPragmas, Text.contains pragma text = true := by
  obtain ⟨line, member, declares⟩ := List.any_eq_true.mp strict
  obtain ⟨pragma, listed, inside⟩ := List.any_eq_true.mp declares
  refine ⟨pragma, listed, ?_⟩
  rw [Text.contains_eq_true_iff] at inside ⊢
  have part := List.infix_of_mem_flatten member
  rw [Text.flatten_splitLines] at part
  exact inside.trans part

theorem hits_preparedBodies (needle text : Text) (undisturbed : Undisturbed needle text) :
    Engine.hits needle 1 (preparedBodies text) = Engine.hits needle 1 (Text.bodies text) := by
  rw [preparedBodies]
  split
  · rename_i strict
    obtain ⟨closed, opened⟩ := undisturbed (contains_of_isStrict text strict)
    cases lines : Text.bodies text with
    | nil => rfl
    | cons first rest =>
        have filled : text ≠ [] := by
          rintro rfl
          cases lines
        have head : (Text.pieces '\n' text).head? = some first := by
          rw [← Text.head?_bodies text filled, lines, List.head?_cons]
        have same : Text.contains needle (scopeOpener ++ first) = Text.contains needle first := by
          rw [Bool.eq_iff_iff]
          refine ⟨opened first head, ?_⟩
          rw [Text.contains_eq_true_iff, Text.contains_eq_true_iff]
          intro inside
          exact inside.trans (List.suffix_append _ _).isInfix
        simp only [List.cons_append, Engine.hits, Engine.hits_append, same, closed]
        simp
  · rfl

end Script

namespace Bundle

theorem exists_bodies_ofScripts (scripts : List Script) (cut : ∀ script ∈ scripts, Cut script) :
    ∃ lines : List Text, (ofScripts scripts).lines = lines.map (· ++ ['\n']) ∧
      (∀ body ∈ lines, '\n' ∉ body) ∧ lines.length = height scripts := by
  obtain ⟨lines, shape, flat⟩ := Text.exists_bodies_of_ended _ (ended_of_cut scripts cut)
  refine ⟨lines, shape, flat, ?_⟩
  rw [← length_ofScripts, shape, List.length_map]

theorem exists_bodies_assemble (reader : Reader) (plain : reader.Plain) (path : Path)
    (imports : List Text) (text : Text) (readable : reader.read path = .ok text)
    (filled : text ≠ []) :
    ∃ lines : List Text, Text.bodies (assemble reader path imports).value.text =
        lines ++ Script.preparedBodies text ∧
      lines.length = height (keptImports reader path imports) := by
  obtain ⟨lines, shape, flat, size⟩ := exists_bodies_ofScripts _
    (keptImports_cut reader plain path imports)
  refine ⟨lines, ?_, size⟩
  have whole : (assemble reader path imports).value.lines =
      (lines ++ Script.preparedBodies text).map (· ++ ['\n']) := by
    calc
      (assemble reader path imports).value.lines =
          (ofScripts (keptImports reader path imports)).lines ++
            Script.prepare (Text.splitLines text) := by
        rw [assemble_value, keptScripts_of_readable reader path imports text readable filled]
        simp [ofScripts, Script.prepared]
      _ = (lines ++ Script.preparedBodies text).map (· ++ ['\n']) := by
        rw [shape, Script.prepare_splitLines, List.map_append]
  rw [Bundle.text, whole]
  apply Text.bodies_flatten
  intro body member
  rcases List.mem_append.mp member with member | member
  · exact flat body member
  · exact Script.preparedBodies_flat text body member

end Bundle

namespace Lint

def findings (path : Path) (needle text : Text) : List Diagnostic :=
  ((Text.pieces '\n' text).zipIdx 1).filterMap fun (piece, number) =>
    if Text.contains needle piece then some (Engine.hit path.spelling needle number) else none

theorem findings_eq_map (path : Path) (needle text : Text) (filled : needle ≠ []) :
    findings path needle text =
      (Engine.hits needle 1 (Text.bodies text)).map (Engine.hit path.spelling needle) := by
  rw [← Engine.hits_bodies needle filled, Engine.hits_eq_filterMap, List.map_filterMap, findings]
  congr 1
  funext ⟨piece, number⟩
  by_cases inside : Text.contains needle piece = true
  · simp [inside]
  · simp [inside]

theorem shifted_hits (path : Path) (id needle : Text) (front back : List Text) :
    let start := 1 + front.length
    (((Engine.hits needle 1 (front ++ back)).map (Engine.hit id needle)).filter
        fun diagnostic => start ≤ diagnostic.line).map (fun diagnostic =>
          (⟨path.spelling, diagnostic.line - start + 1, diagnostic.message⟩ : Diagnostic)) =
      (Engine.hits needle 1 back).map (Engine.hit path.spelling needle) := by
  intro start
  have early : ((Engine.hits needle 1 front).map (Engine.hit id needle)).filter
      (fun diagnostic => start ≤ diagnostic.line) = [] := by
    apply List.filter_eq_nil_iff.mpr
    intro diagnostic member
    obtain ⟨number, inside, rfl⟩ := List.mem_map.mp member
    have bounds := Engine.hits_bounds needle 1 front number inside
    intro counted
    have lower : start ≤ number := of_decide_eq_true counted
    omega
  have late :
      (((Engine.hits needle 1 back).map (· + front.length)).map (Engine.hit id needle)).filter
        (fun diagnostic => start ≤ diagnostic.line) =
          ((Engine.hits needle 1 back).map (· + front.length)).map (Engine.hit id needle) := by
    apply List.filter_eq_self.mpr
    intro diagnostic member
    obtain ⟨number, moved, rfl⟩ := List.mem_map.mp member
    obtain ⟨below, inside, rfl⟩ := List.mem_map.mp moved
    have bounds := Engine.hits_bounds needle 1 back below inside
    apply decide_eq_true
    rw [Engine.hit_line]
    omega
  rw [Engine.hits_append, Engine.hits_add, List.map_append, List.filter_append, early, late,
    List.nil_append, List.map_map, List.map_map]
  apply List.map_congr_left
  intro number member
  have bounds := Engine.hits_bounds needle 1 back number member
  have place : number + front.length - start + 1 = number := by omega
  simp [Engine.hit, place]

/-- Every text that the engine is given is shorter than machine words can count, as any text in
memory is, so that its lines can be numbered. -/
def Numerable (run : Traced α) : Prop :=
  ∀ request ∈ run.calls, request.text.length < Text.wordBound

theorem relocateAllTo_printed (reader : Reader) (plain : reader.Plain) (path : Path) (text : Text)
    (readable : reader.read path = .ok text) (needle id : Text) (filled : needle ≠ [])
    (ended : needle.getLast? ≠ some '\r') (flat : '\n' ∉ id) (unmarked : Diagnostic.Unmarked id)
    (undisturbed : Script.Undisturbed needle text) (imports : List Text)
    (small : (Bundle.assemble reader path imports).value.text.length < Text.wordBound) :
    let bundle := (Bundle.assemble reader path imports).value
    Diagnostic.relocateAllTo bundle.map path (Engine.printed id needle bundle.text) =
      findings path needle text := by
  intro bundle
  rw [findings_eq_map path needle text filled]
  by_cases vacant : text = []
  · have absent : ¬ ∃ text, reader.read path = .ok text ∧ text ≠ [] := by
      rintro ⟨other, same, present⟩
      rw [readable, vacant] at same
      cases same
      exact present rfl
    rw [relocateAllTo_assemble_of_absent reader path imports absent, vacant]
    rfl
  · obtain ⟨lines, shape, size⟩ :=
      Bundle.exists_bodies_assemble reader plain path imports text readable vacant
    rw [relocateAllTo_assemble_of_readable reader path imports text readable vacant,
      Engine.parseAll_printed id needle _ filled ended flat unmarked small, shape, ← size,
      shifted_hits, Script.hits_preparedBodies needle text undisturbed]

theorem merged_needle (reader : Reader) (plain : reader.Plain) (path : Path) (text : Text)
    (readable : reader.read path = .ok text) (needle id : Text) (filled : needle ≠ [])
    (ended : needle.getLast? ≠ some '\r') (flat : '\n' ∉ id) (unmarked : Diagnostic.Unmarked id)
    (undisturbed : Script.Undisturbed needle text) (imports : List Text) (state : σ)
    (small : Numerable (merged reader (Engine.needle needle id) path imports state)) :
    (merged reader (Engine.needle needle id) path imports state).value =
      (.ok ⟨.merged, (findings path needle text).isEmpty, findings path needle text⟩, state) := by
  have size : (Bundle.assemble reader path imports).value.text.length < Text.wordBound := by
    apply small ⟨(Bundle.assemble reader path imports).value.text, none⟩
    rw [calls_merged]
    exact List.mem_singleton_self _
  have kept := relocateAllTo_printed reader plain path text readable needle id filled ended flat
    unmarked undisturbed imports size
  dsimp only at kept
  have value := merged_value reader (Engine.needle needle id) path imports state state
    ⟨_, Engine.printed id needle (Bundle.assemble reader path imports).value.text⟩ rfl
  rw [kept] at value
  exact value

theorem direct_needle (path : Path) (text needle id : Text) (filled : needle ≠ [])
    (ended : needle.getLast? ≠ some '\r') (flat : '\n' ∉ path.spelling)
    (unmarked : Diagnostic.Unmarked path.spelling) (state : σ)
    (small : Numerable (direct (Engine.needle needle id) path text state)) :
    (direct (Engine.needle needle id) path text state).value =
      (.ok ⟨.direct, (findings path needle text).isEmpty, findings path needle text⟩, state) := by
  have size : text.length < Text.wordBound := by
    apply small ⟨text, some path⟩
    rw [calls_direct]
    exact List.mem_singleton_self _
  have read := Engine.parseAll_printed path.spelling needle text filled ended flat unmarked size
  rw [← findings_eq_map path needle text filled] at read
  have verdict : (Engine.hits needle 1 (Text.pieces '\n' text)).isEmpty =
      (findings path needle text).isEmpty := by
    rw [findings_eq_map path needle text filled, Engine.hits_bodies needle filled, List.isEmpty_map]
  have value := direct_value (Engine.needle needle id) path text state state
    ⟨_, Engine.printed path.spelling needle text⟩ rfl
  rw [read, verdict] at value
  exact value

/-- A needle is found where it is: every merged run and every run on the file itself reports the
lines of the script that hold it, once each and in order, under their own numbers, and passes if
there are none. The texts may be anything whose lines can be numbered. -/
theorem needle_findings (reader : Reader) (plain : reader.Plain) (path : Path) (text : Text)
    (readable : reader.read path = .ok text) (needle id : Text) (filled : needle ≠ [])
    (ended : needle.getLast? ≠ some '\r')
    (flatPath : '\n' ∉ path.spelling) (unmarkedPath : Diagnostic.Unmarked path.spelling)
    (flatId : '\n' ∉ id) (unmarkedId : Diagnostic.Unmarked id)
    (undisturbed : Script.Undisturbed needle text) (state : σ) :
    let engine : Engine σ := Engine.needle needle id
    let found := findings path needle text
    (∀ imports, Numerable (merged reader engine path imports state) →
      (merged reader engine path imports state).value =
        (.ok ⟨.merged, found.isEmpty, found⟩, state)) ∧
    (∀ report, Numerable (file reader engine path state) →
      (file reader engine path state).value.1 = .ok report →
        report.diagnostics = found ∧ (report.passed = true ↔ found = [])) := by
  intro engine found
  have each := fun imports => merged_needle reader plain path text readable needle id filled ended
    flatId unmarkedId undisturbed imports state
  refine ⟨each, ?_⟩
  intro report small done
  rcases file_cases reader engine path text readable state with
    ⟨_, same⟩ | ⟨_, fault, _, same⟩ | ⟨_, imports, _, value, calls⟩
  · rw [same] at small done
    rw [direct_needle path text needle id filled ended flatPath unmarkedPath state small] at done
    cases done
    exact ⟨rfl, List.isEmpty_iff⟩
  · rw [same] at done
    cases done
  · rw [Numerable, calls] at small
    rw [value, each imports small] at done
    cases done
    exact ⟨rfl, List.isEmpty_iff⟩

theorem needle_findings_sample :
    let strict : Path := ⟨"w/a.js".toList⟩
    let engine : Engine Unit := Engine.needle "use".toList "stdin".toList
    let found : List Diagnostic := [⟨"w/a.js".toList, 1, "found use".toList⟩]
    (merged Bundle.sampleShelf.reader engine strict ["b.js".toList] ()).value =
        (.ok ⟨.merged, false, found⟩, ()) ∧
      ∃ report, (file Bundle.sampleShelf.reader engine strict ()).value.1 = .ok report ∧
        report.diagnostics = found := by
  intro strict engine found
  have undisturbed : Script.Undisturbed "use".toList "'use strict'".toList := by
    intro _
    refine ⟨by decide, ?_⟩
    rintro _ ⟨⟩ _
    decide
  obtain ⟨bundled, alone⟩ := needle_findings Bundle.sampleShelf.reader
    Bundle.sampleShelf.reader_plain strict "'use strict'".toList rfl "use".toList "stdin".toList
    (by decide) (by decide) (by decide) (Diagnostic.unmarked_of_no_colon _ (by decide)) (by decide)
    (Diagnostic.unmarked_of_no_colon _ (by decide)) undisturbed ()
  refine ⟨bundled ["b.js".toList] (by unfold Numerable; decide), ⟨.direct, false, found⟩, rfl, ?_⟩
  exact (alone ⟨.direct, false, found⟩ (by unfold Numerable; decide) rfl).1

end Lint

end WorkerLint
