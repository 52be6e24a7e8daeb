import WorkerLint.Proofs.BundleLayout
import WorkerLint.Proofs.LineSplitting

namespace WorkerLint

namespace Text

def Ended (line : Text) : Prop :=
  ∃ body, '\n' ∉ body ∧ line = body ++ ['\n']

theorem splitLines_flatten (lines : List Text) (ended : ∀ line ∈ lines, Ended line) :
    splitLines lines.flatten = lines := by
  induction lines with
  | nil => rfl
  | cons line rest ih =>
      obtain ⟨body, flat, rfl⟩ := ended line List.mem_cons_self
      have below := ih fun other member => ended other (List.mem_cons_of_mem _ member)
      rw [List.flatten_cons, List.append_assoc, List.singleton_append,
        splitLines_append_lineFeed body rest.flatten flat, below]

theorem exists_bodies_of_ended (lines : List Text) (ended : ∀ line ∈ lines, Ended line) :
    ∃ bodies : List Text, lines = bodies.map (· ++ ['\n']) ∧ ∀ body ∈ bodies, '\n' ∉ body := by
  induction lines with
  | nil => exact ⟨[], rfl, by simp⟩
  | cons line rest ih =>
      obtain ⟨body, flat, rfl⟩ := ended line List.mem_cons_self
      obtain ⟨bodies, rfl, below⟩ :=
        ih fun other member => ended other (List.mem_cons_of_mem _ member)
      exact ⟨body :: bodies, rfl, List.forall_mem_cons.mpr ⟨flat, below⟩⟩

theorem count_lineFeed_flatten (lines : List Text) (ended : ∀ line ∈ lines, Ended line) :
    lines.flatten.count '\n' = lines.length := by
  induction lines with
  | nil => rfl
  | cons line rest ih =>
      obtain ⟨body, flat, rfl⟩ := ended line List.mem_cons_self
      have below := ih fun other member => ended other (List.mem_cons_of_mem _ member)
      have none : body.count '\n' = 0 := List.count_eq_zero.mpr flat
      simp [none, below]

end Text

namespace Bundle

def Cut (script : Script) : Prop :=
  ∃ text, script.lines = Text.splitLines text

theorem Cut.prepared_ended {script : Script} (cut : Cut script) :
    ∀ line ∈ script.prepared, Text.Ended line := by
  obtain ⟨text, read⟩ := cut
  intro line member
  rw [Script.prepared, read, Script.prepare_splitLines] at member
  obtain ⟨body, inside, rfl⟩ := List.mem_map.mp member
  exact ⟨body, Script.preparedBodies_flat text body inside, rfl⟩

theorem ended_of_cut (scripts : List Script) (cut : ∀ script ∈ scripts, Cut script) :
    ∀ line ∈ (ofScripts scripts).lines, Text.Ended line := by
  intro line member
  obtain ⟨prepared, present, inside⟩ := List.mem_flatten.mp member
  obtain ⟨script, listed, rfl⟩ := List.mem_map.mp present
  exact (cut script listed).prepared_ended line inside

theorem splitLines_text (scripts : List Script) (cut : ∀ script ∈ scripts, Cut script) :
    Text.splitLines (ofScripts scripts).text = (ofScripts scripts).lines :=
  Text.splitLines_flatten _ (ended_of_cut scripts cut)

theorem count_text (scripts : List Script) (cut : ∀ script ∈ scripts, Cut script) :
    (ofScripts scripts).text.count '\n' = height scripts := by
  rw [text, Text.count_lineFeed_flatten _ (ended_of_cut scripts cut), length_ofScripts]

theorem keptScripts_read (reader : Reader) (plain : reader.Plain) (primary : Path)
    (imports : List Text) :
    ∀ script ∈ keptScripts reader primary imports,
      ∃ text, reader.read script.path = .ok text ∧ script.lines = Text.splitLines text := by
  intro script member
  rcases List.mem_append.mp member with member | member
  · obtain ⟨name, _, brought⟩ := List.mem_filterMap.mp member
    obtain ⟨path, text, _, readable, _, _, rfl⟩ :=
      (importedScript?_eq_some_iff reader plain primary name script).mp brought
    exact ⟨text, readable, rfl⟩
  · obtain ⟨text, readable, _, rfl⟩ :=
      (primaryScript?_eq_some_iff reader primary script).mp (Option.mem_toList.mp member)
    exact ⟨text, readable, rfl⟩

theorem keptScripts_cut (reader : Reader) (plain : reader.Plain) (primary : Path)
    (imports : List Text) : ∀ script ∈ keptScripts reader primary imports, Cut script := by
  intro script member
  obtain ⟨text, _, cut⟩ := keptScripts_read reader plain primary imports script member
  exact ⟨text, cut⟩

theorem keptImports_cut (reader : Reader) (plain : reader.Plain) (primary : Path)
    (imports : List Text) : ∀ script ∈ keptImports reader primary imports, Cut script :=
  fun script member => keptScripts_cut reader plain primary imports script
    (List.mem_append_left _ member)

/-- The text of a bundle has the lines that the bundle counts: each ends in a line feed and holds
no other, so that they are as many as the line feeds. The lines before a script, its own and those
after it are told apart in the text, and its span starts on the line after those before it. -/
theorem assemble_physicalLines (reader : Reader) (plain : reader.Plain) (primary : Path)
    (imports : List Text) :
    let kept := keptScripts reader primary imports
    let bundle := (assemble reader primary imports).value
    Text.splitLines bundle.text = bundle.lines ∧
    (∀ line ∈ bundle.lines, Text.Ended line) ∧
    bundle.lines.length = bundle.text.count '\n' ∧
    (∀ before script after, kept = before ++ script :: after →
      Text.splitLines bundle.text = Text.splitLines (ofScripts before).text ++ script.prepared ++
        Text.splitLines (ofScripts after).text ∧
      bundle.map.spans[before.length]? =
        some ⟨1 + (ofScripts before).text.count '\n', script.path, 1⟩) := by
  intro kept bundle
  have cut : ∀ script ∈ kept, Cut script := keptScripts_cut reader plain primary imports
  have layout : bundle = ofScripts kept := assemble_value reader primary imports
  rw [layout]
  refine ⟨splitLines_text kept cut, ended_of_cut kept cut, ?_, ?_⟩
  · rw [count_text kept cut, length_ofScripts]
  · intro before script after parts
    have early : ∀ other ∈ before, Cut other :=
      fun other member => cut other (by rw [parts]; simp [member])
    have late : ∀ other ∈ after, Cut other :=
      fun other member => cut other (by rw [parts]; simp [member])
    constructor
    · rw [splitLines_text kept cut, splitLines_text before early, splitLines_text after late, parts]
      simp [ofScripts]
    · rw [getElem?_spans_ofScripts, count_text before early, startOf, parts]
      simp

theorem assemble_physicalLines_sample :
    let bundle := (assemble sampleShelf.reader samplePath ["a.js".toList]).value
    bundle.text = "(function () \x7b'use strict'\n\x7d());\nb;\nc;\n".toList ∧
      Text.splitLines bundle.text = bundle.lines ∧ bundle.text.count '\n' = 4 := by
  intro bundle
  obtain ⟨lines, _, count, _⟩ := assemble_physicalLines sampleShelf.reader
    sampleShelf.reader_plain samplePath ["a.js".toList]
  exact ⟨by decide, lines, count.symm⟩

end Bundle

end WorkerLint
