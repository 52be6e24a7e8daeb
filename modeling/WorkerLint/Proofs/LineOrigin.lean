import WorkerLint.Proofs.BundleLayout
import WorkerLint.Proofs.LineLookup

namespace WorkerLint.Bundle

/-- Line `line` of the bundle of the scripts is line `offset` of the script at `index`. -/
def StandsAt (scripts : List Script) (line index offset : Nat) : Prop :=
  ∃ script, scripts[index]? = some script ∧ 1 ≤ offset ∧ offset ≤ script.prepared.length ∧
    line + 1 = startOf scripts index + offset

theorem startOf_succ (scripts : List Script) (index : Nat) (script : Script)
    (present : scripts[index]? = some script) :
    startOf scripts (index + 1) = startOf scripts index + script.prepared.length := by
  simp [startOf, List.take_add_one, present, Nat.add_assoc]

theorem startOf_mono (scripts : List Script) {i j : Nat} (before : i ≤ j) :
    startOf scripts i ≤ startOf scripts j := by
  have parted : scripts.take j = scripts.take i ++ (scripts.take j).drop i := by
    calc
      scripts.take j = (scripts.take j).take i ++ (scripts.take j).drop i :=
        (List.take_append_drop i (scripts.take j)).symm
      _ = scripts.take i ++ (scripts.take j).drop i := by
        rw [List.take_take, Nat.min_eq_left before]
  rw [startOf, startOf, parted, height_append]
  omega

theorem startOf_length (scripts : List Script) :
    startOf scripts scripts.length = 1 + height scripts := by
  rw [startOf, List.take_length]

theorem startOf_cons_succ (script : Script) (rest : List Script) (index : Nat) :
    startOf (script :: rest) (index + 1) = script.prepared.length + startOf rest index := by
  simp only [startOf, List.take_succ_cons, height_cons]
  omega

theorem exists_standsAt (scripts : List Script) (line : Nat) (lower : 1 ≤ line)
    (upper : line ≤ height scripts) : ∃ index offset, StandsAt scripts line index offset := by
  induction scripts generalizing line with
  | nil =>
      simp only [height_nil] at upper
      omega
  | cons script rest ih =>
      by_cases inside : line ≤ script.prepared.length
      · exact ⟨0, line, script, rfl, lower, inside, by simp [startOf, Nat.add_comm]⟩
      · simp only [height_cons] at upper
        obtain ⟨index, offset, other, present, first, last, place⟩ :=
          ih (line - script.prepared.length) (by omega) (by omega)
        refine ⟨index + 1, offset, other, present, first, last, ?_⟩
        rw [startOf_cons_succ]
        omega

theorem StandsAt.lower {scripts : List Script} {line index offset : Nat}
    (place : StandsAt scripts line index offset) : startOf scripts index ≤ line := by
  obtain ⟨script, _, first, _, position⟩ := place
  omega

theorem StandsAt.upper {scripts : List Script} {line index offset : Nat}
    (place : StandsAt scripts line index offset) : line < startOf scripts (index + 1) := by
  obtain ⟨script, present, _, last, position⟩ := place
  rw [startOf_succ scripts index script present]
  omega

theorem StandsAt.unique {scripts : List Script} {line i j k l : Nat}
    (first : StandsAt scripts line i k) (second : StandsAt scripts line j l) : i = j ∧ k = l := by
  have here : i = j := by
    rcases Nat.lt_trichotomy i j with before | same | behind
    · have apart := startOf_mono scripts (show i + 1 ≤ j by omega)
      have upper := first.upper
      have lower := second.lower
      omega
    · exact same
    · have apart := startOf_mono scripts (show j + 1 ≤ i by omega)
      have upper := second.upper
      have lower := first.lower
      omega
  subst here
  obtain ⟨_, _, _, _, position⟩ := first
  obtain ⟨_, _, _, _, position'⟩ := second
  exact ⟨rfl, by omega⟩

theorem StandsAt.bounds {scripts : List Script} {line index offset : Nat}
    (place : StandsAt scripts line index offset) : 1 ≤ line ∧ line ≤ height scripts := by
  have lower := place.lower
  have upper := place.upper
  obtain ⟨script, present, _⟩ := place
  have inside := (List.getElem?_eq_some_iff.mp present).1
  have total := startOf_mono scripts (show index + 1 ≤ scripts.length by omega)
  rw [startOf_length] at total
  simp only [startOf] at lower
  exact ⟨by omega, by omega⟩

theorem StandsAt.getElem?_lines {scripts : List Script} {line index offset : Nat} {script : Script}
    (place : StandsAt scripts line index offset) (present : scripts[index]? = some script) :
    (ofScripts scripts).lines[line - 1]? = script.prepared[offset - 1]? := by
  obtain ⟨other, there, first, last, position⟩ := place
  rw [present] at there
  cases there
  have parted : scripts = scripts.take index ++ script :: scripts.drop (index + 1) := by
    obtain ⟨inside, rfl⟩ := List.getElem?_eq_some_iff.mp present
    rw [← List.drop_eq_getElem_cons inside, List.take_append_drop]
  have ahead : ((scripts.take index).map Script.prepared).flatten.length =
      height (scripts.take index) := length_ofScripts (scripts.take index)
  have depth : line - 1 = height (scripts.take index) + (offset - 1) := by
    rw [startOf] at position
    omega
  change ((scripts.map Script.prepared).flatten)[line - 1]? = _
  conv => lhs; rw [parted]
  rw [List.map_append, List.flatten_append, List.map_cons, List.flatten_cons,
    List.getElem?_append_right (by omega), ahead, depth, Nat.add_sub_cancel_left,
    List.getElem?_append_left (by omega)]

theorem source?_ofScripts (scripts : List Script)
    (filled : ∀ script ∈ scripts, script.lines ≠ []) (line index : Nat) (script : Script)
    (present : scripts[index]? = some script) (lower : startOf scripts index ≤ line)
    (upper : index + 1 < scripts.length → line < startOf scripts (index + 1)) :
    (ofScripts scripts).map.source? line =
      some (script.path, line - startOf scripts index + 1) := by
  have increasing : (ofScripts scripts).map.Increasing := spansFrom_increasing 1 scripts filled
  have span : (ofScripts scripts).map.spanAt? line =
      some ⟨startOf scripts index, script.path, 1⟩ := by
    refine (increasing.spanAt?_eq_some_iff line _).mpr ⟨index, ?_, lower, ?_⟩
    · rw [getElem?_spans_ofScripts, present]
      rfl
    · intro next behind
      rw [getElem?_spans_ofScripts] at behind
      obtain ⟨other, there, rfl⟩ := Option.map_eq_some_iff.mp behind
      exact upper (List.getElem?_eq_some_iff.mp there).1
  rw [LineMap.source?, span]
  rfl

theorem StandsAt.source? {scripts : List Script} {line index offset : Nat} {script : Script}
    (place : StandsAt scripts line index offset) (present : scripts[index]? = some script)
    (filled : ∀ script ∈ scripts, script.lines ≠ []) :
    (ofScripts scripts).map.source? line = some (script.path, offset) := by
  rw [source?_ofScripts scripts filled line index script present place.lower
    (fun _ => place.upper)]
  obtain ⟨_, _, _, _, position⟩ := place
  have depth : line - startOf scripts index + 1 = offset := by omega
  rw [depth]

theorem source?_ofScripts_zero (scripts : List Script)
    (filled : ∀ script ∈ scripts, script.lines ≠ []) :
    (ofScripts scripts).map.source? 0 = none := by
  have increasing : (ofScripts scripts).map.Increasing := spansFrom_increasing 1 scripts filled
  have outside : (ofScripts scripts).map.spanAt? 0 = none := by
    refine (increasing.spanAt?_eq_none_iff 0).mpr ?_
    intro span member
    have bounds := spansFrom_bounds 1 scripts filled span member
    omega
  rw [LineMap.source?, outside]
  rfl

theorem source?_ofScripts_beyond (scripts : List Script)
    (filled : ∀ script ∈ scripts, script.lines ≠ []) (line : Nat) (beyond : height scripts < line) :
    (ofScripts scripts).map.source? line = scripts.getLast?.map fun script =>
      (script.path, line - startOf scripts (scripts.length - 1) + 1) := by
  cases last : scripts.getLast? with
  | none =>
      have vacant : scripts = [] := List.getLast?_eq_none_iff.mp last
      simp [vacant, ofScripts, spansFrom, LineMap.source?, LineMap.spanAt?, bisect]
  | some script =>
      rw [List.getLast?_eq_getElem?] at last
      have inside := (List.getElem?_eq_some_iff.mp last).1
      have lower := startOf_mono scripts (Nat.le_of_lt inside)
      rw [startOf_length] at lower
      exact source?_ofScripts scripts filled line (scripts.length - 1) script last (by omega)
        (fun more => by omega)

/-- Lines and places match one to one, the map of a bundle gives the place of each line, and what
stands there is the raw line of the script but for what preparing it adds. Line zero has no place,
and lines past the end count on from the last script. -/
theorem assemble_source (reader : Reader) (primary : Path) (imports : List Text) :
    let kept := keptScripts reader primary imports
    let bundle := (assemble reader primary imports).value
    (∀ line, 1 ≤ line → line ≤ bundle.lines.length →
      ∃ index script offset, kept[index]? = some script ∧ StandsAt kept line index offset ∧
        (∀ i k, StandsAt kept line i k → i = index ∧ k = offset) ∧
        bundle.map.source? line = some (script.path, offset) ∧
        bundle.lines[line - 1]? = script.prepared[offset - 1]?) ∧
    (∀ index script offset, kept[index]? = some script → 1 ≤ offset →
      offset ≤ script.prepared.length →
      ∃ line, StandsAt kept line index offset ∧ 1 ≤ line ∧ line ≤ bundle.lines.length ∧
        ∀ other, StandsAt kept other index offset → other = line) ∧
    (∀ script ∈ kept, ∀ offset line, 1 ≤ offset → script.prepared[offset - 1]? = some line →
      (∃ raw, script.lines[offset - 1]? = some raw ∧
        line = (if offset = 1 ∧ Script.isStrict script.lines then Script.scopeOpener else []) ++
          raw ++
          (if offset = script.lines.length ∧ raw.getLast? ≠ some '\n' then ['\n'] else [])) ∨
      (offset = script.lines.length + 1 ∧ Script.isStrict script.lines = true ∧
        line = Script.scopeCloser)) ∧
    bundle.map.source? 0 = none ∧
    (∀ line, bundle.lines.length < line →
      bundle.map.source? line = kept.getLast?.map fun script =>
        (script.path, line - startOf kept (kept.length - 1) + 1)) := by
  intro kept bundle
  have filled : ∀ script ∈ kept, script.lines ≠ [] := keptScripts_filled reader primary imports
  have layout : bundle = ofScripts kept := assemble_value reader primary imports
  have size : bundle.lines.length = height kept := by rw [layout, length_ofScripts]
  rw [size, layout]
  refine ⟨?_, ?_, ?_, source?_ofScripts_zero kept filled, source?_ofScripts_beyond kept filled⟩
  · intro line lower upper
    obtain ⟨index, offset, place⟩ := exists_standsAt kept line lower upper
    obtain ⟨script, present, _⟩ := id place
    refine ⟨index, script, offset, present, place, ?_, place.source? present filled,
      place.getElem?_lines present⟩
    intro i k other
    exact other.unique place
  · intro index script offset present first last
    have start : 1 ≤ startOf kept index := Nat.le_add_right 1 _
    have place : StandsAt kept (startOf kept index + offset - 1) index offset :=
      ⟨script, present, first, last, by omega⟩
    refine ⟨_, place, place.bounds.1, place.bounds.2, ?_⟩
    rintro other ⟨_, _, _, _, position⟩
    omega
  · intro script _ offset line first there
    obtain ⟨index, rfl⟩ := Nat.exists_eq_add_of_le' first
    simpa using Script.prepare_line script.lines index line there

theorem assemble_source_sample :
    let kept := keptScripts sampleShelf.reader samplePath ["a.js".toList]
    let bundle := (assemble sampleShelf.reader samplePath ["a.js".toList]).value
    bundle.lines.length = 4 ∧
      (∃ index script offset, kept[index]? = some script ∧ StandsAt kept 2 index offset ∧
        bundle.map.source? 2 = some (script.path, offset)) ∧
      bundle.map.source? 9 = some (samplePath, 7) := by
  obtain ⟨places, _, _, _, beyond⟩ :=
    assemble_source sampleShelf.reader samplePath ["a.js".toList]
  obtain ⟨index, script, offset, present, place, _, source, _⟩ :=
    places 2 (by decide) (by decide)
  exact ⟨rfl, ⟨index, script, offset, present, place, source⟩, beyond 9 (by decide)⟩

end WorkerLint.Bundle
