import WorkerLint.Relocation
import WorkerLint.Proofs.Encoding
import WorkerLint.Proofs.LineArithmetic

namespace WorkerLint

theorem LineMap.exists_span_of_source? (map : LineMap) (line : Nat) (file : Path) (offset : Nat)
    (found : map.source? line = some (file, offset)) : ∃ span ∈ map.spans, span.file = file := by
  obtain ⟨span, there, named⟩ := Option.map_eq_some_iff.mp found
  cases named
  rw [spanAt?] at there
  split at there
  · cases there
  · exact ⟨span, List.mem_of_getElem? there, rfl⟩

theorem Bundle.source?_assemble_bounds (reader : Reader) (primary : Path) (imports : List Text)
    (line : Nat) (file : Path) (offset : Nat)
    (found : (assemble reader primary imports).value.map.source? line = some (file, offset)) :
    1 ≤ offset ∧ offset ≤ line := by
  obtain ⟨span, there, named⟩ := Option.map_eq_some_iff.mp found
  obtain ⟨_, lower, upper⟩ := spanAt?_assemble_range reader primary imports line span there
  simp only [Prod.mk.injEq] at named
  omega

namespace Diagnostic

/-- Every line of output adds at most one finding, with the message that the line says and a line
number that is no greater than the one it says. -/
def LineByLine (read : List Text → List Diagnostic) : Prop :=
  ∃ own : Text → Option Diagnostic, (∀ raw, read raw = raw.filterMap own) ∧
    ∀ line found, own line = some found →
      ∃ said, parse? line = some said ∧ found.message = said.message ∧
        1 ≤ found.line ∧ found.line ≤ said.line

def isAbout (requested : Path) (found : Diagnostic) : Bool :=
  (⟨found.file⟩ : Path).components = requested.components

variable (map : LineMap) (requested : Path)

/-- All files of the map have paths that are texts, as they are named in findings. -/
def Named (map : LineMap) : Prop :=
  ∀ span ∈ map.spans, ∃ text, span.file = .mk text

theorem relocateTo?_eq_filter (named : Named map) (said : Diagnostic) :
    relocateTo? map requested said = (relocate? map said).filter (isAbout requested) := by
  rw [relocateTo?, relocate?]
  cases found : map.source? said.line with
  | none => rfl
  | some origin =>
      obtain ⟨file, line⟩ := origin
      obtain ⟨span, member, rfl⟩ := map.exists_span_of_source? said.line file line found
      obtain ⟨text, spelled⟩ := named span member
      have shown : (⟨span.file.spelling⟩ : Path) = span.file := by
        rw [spelled, Path.spelling_mk]
        rfl
      by_cases own : span.file.components = requested.components
      · simp [Path.same, isAbout, own, shown, Option.filter]
      · simp [Path.same, isAbout, own, shown, Option.filter]

theorem relocateAllTo_eq_filter (named : Named map) (raw : List Text) :
    relocateAllTo map requested raw = (relocateAll map raw).filter (isAbout requested) := by
  rw [relocateAllTo, relocateAll, List.filter_filterMap]
  exact congrArg (List.filterMap · (parseAll raw))
    (funext (relocateTo?_eq_filter map requested named))

theorem relocateAllTo_congr (requested' : Path)
    (same : requested.components = requested'.components) (raw : List Text) :
    relocateAllTo map requested raw = relocateAllTo map requested' raw := by
  have alike : relocateTo? map requested = relocateTo? map requested' := by
    funext said
    have own : ∀ file : Path, file.same requested = file.same requested' := by
      intro file
      rw [Path.same, Path.same, same]
    simp only [relocateTo?, own]
  rw [relocateAllTo, relocateAllTo, alike]

theorem lineByLine_filterMap (carry : Diagnostic → Option Diagnostic)
    (bounds : ∀ said found, carry said = some found →
      found.message = said.message ∧ 1 ≤ found.line ∧ found.line ≤ said.line) :
    LineByLine fun raw => (parseAll raw).filterMap carry := by
  refine ⟨fun line => (parse? line).bind carry, ?_, ?_⟩
  · intro raw
    simp only [parseAll, List.filterMap_filterMap]
  · intro line found carried
    obtain ⟨said, read, moved⟩ := Option.bind_eq_some_iff.mp carried
    exact ⟨said, read, bounds said found moved⟩

section

variable (bounds : ∀ line file offset, map.source? line = some (file, offset) →
  1 ≤ offset ∧ offset ≤ line)

include bounds

theorem lineByLine_relocateAll : LineByLine (relocateAll map) := by
  apply lineByLine_filterMap
  intro said found moved
  rw [relocate?] at moved
  split at moved
  · cases moved
  · rename_i file offset origin
    cases moved
    exact ⟨rfl, bounds said.line file offset origin⟩

theorem lineByLine_relocateAllTo : LineByLine (relocateAllTo map requested) := by
  apply lineByLine_filterMap
  intro said found moved
  rw [relocateTo?] at moved
  split at moved
  · cases moved
  · rename_i file offset origin
    split at moved
    · cases moved
      exact ⟨rfl, bounds said.line file offset origin⟩
    · cases moved

end

/-- With the map of a bundle of files whose paths are texts, what is carried back to a requested
file is all that is carried back and is about this file, as it is and in its order. Only the
components of the requested path matter, and each line of output adds at most one finding, with its
own message and a line number that does not grow. -/
theorem relocateAllTo_selects (reader : Reader) (primary : Path) (imports : List Text) :
    let map := (Bundle.assemble reader primary imports).value.map
    (Named map → ∀ raw requested, relocateAllTo map requested raw =
      (relocateAll map raw).filter (isAbout requested)) ∧
    (∀ raw requested requested', requested.components = requested'.components →
      relocateAllTo map requested raw = relocateAllTo map requested' raw) ∧
    LineByLine (relocateAll map) ∧
    (∀ requested, LineByLine (relocateAllTo map requested)) := by
  intro map
  have bounds := Bundle.source?_assemble_bounds reader primary imports
  refine ⟨?_, ?_, lineByLine_relocateAll map bounds, ?_⟩
  · exact fun named raw requested => relocateAllTo_eq_filter map requested named raw
  · exact fun raw requested requested' same => relocateAllTo_congr map requested requested' same raw
  · exact fun requested => lineByLine_relocateAllTo map requested bounds

theorem relocateAllTo_selects_sample :
    let bundle := Bundle.assemble Bundle.sampleShelf.reader Bundle.samplePath ["a.js".toList]
    let map := bundle.value.map
    let raw := ["x: line 4,p".toList, "2 errors".toList, "x: line 1,i".toList,
      "x: line 4,p".toList]
    relocateAllTo map ⟨"w/.//b.js/".toList⟩ raw =
        [⟨"w/b.js".toList, 2, "p".toList⟩, ⟨"w/b.js".toList, 2, "p".toList⟩] ∧
      relocateAllTo map ⟨"./w/b.js".toList⟩ raw = [] := by
  intro bundle map raw
  obtain ⟨selects, respelled, _, _⟩ :=
    relocateAllTo_selects Bundle.sampleShelf.reader Bundle.samplePath ["a.js".toList]
  have layout : map = ⟨[⟨1, ⟨"w/a.js".toList⟩, 1⟩, ⟨3, ⟨"w/b.js".toList⟩, 1⟩]⟩ := by decide
  have named : Named map := by
    rw [layout]
    simpa [Named] using ⟨⟨"w/a.js".toList, rfl⟩, ⟨"w/b.js".toList, rfl⟩⟩
  have said : parseAll raw = [⟨"x".toList, 4, "p".toList⟩, ⟨"x".toList, 1, "i".toList⟩,
      ⟨"x".toList, 4, "p".toList⟩] := by decide
  have all : relocateAll map raw = [⟨"w/b.js".toList, 2, "p".toList⟩,
      ⟨"w/a.js".toList, 1, "i".toList⟩, ⟨"w/b.js".toList, 2, "p".toList⟩] := by
    rw [relocateAll, said, layout]
    have shown : ∀ text : Text, (⟨text⟩ : Path).spelling = text := Path.spelling_mk
    simp [relocate?, LineMap.source?, LineMap.spanAt?, LineMap.startsBy, bisect, shown]
  constructor
  · rw [respelled raw _ Bundle.samplePath (by decide), selects named]
    change (relocateAll map raw).filter _ = _
    rw [all]
    decide
  · rw [selects named]
    change (relocateAll map raw).filter _ = _
    rw [all]
    decide

end Diagnostic

end WorkerLint
