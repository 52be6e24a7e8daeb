import WorkerLint.Findings
import WorkerLint.Proofs.DiagnosticGrammar
import WorkerLint.Proofs.LineSplitting

namespace WorkerLint.Text

theorem chomp_append_lineFeed (body : Text) (ended : body.getLast? ≠ some '\r') :
    chomp (body ++ ['\n']) = body := by
  have backwards : (body ++ ['\n']).reverse = '\n' :: body.reverse := by simp
  rw [chomp, backwards]
  cases front : body.reverse with
  | nil => simpa using front.symm
  | cons c rest =>
      have other : c ≠ '\r' := by
        intro same
        apply ended
        rw [← List.head?_reverse, front, List.head?_cons, same]
      have whole : (c :: rest).reverse = body := by rw [← front, List.reverse_reverse]
      simpa [other] using whole

theorem lines_append_lineFeed (body rest : Text) (flat : '\n' ∉ body)
    (ended : body.getLast? ≠ some '\r') : lines (body ++ '\n' :: rest) = body :: lines rest := by
  rw [lines, splitLines_append_lineFeed body rest flat, List.map_cons,
    chomp_append_lineFeed body ended, lines]

theorem lines_flatMap (bodies : List Text) (flat : ∀ body ∈ bodies, '\n' ∉ body)
    (ended : ∀ body ∈ bodies, body.getLast? ≠ some '\r') :
    lines (bodies.flatMap (· ++ ['\n'])) = bodies := by
  induction bodies with
  | nil => rfl
  | cons body bodies ih =>
      have below := ih (fun other member => flat other (List.mem_cons_of_mem body member))
        fun other member => ended other (List.mem_cons_of_mem body member)
      have cut := lines_append_lineFeed body (bodies.flatMap (· ++ ['\n']))
        (flat body List.mem_cons_self) (ended body List.mem_cons_self)
      rw [below] at cut
      simpa using cut

end WorkerLint.Text

namespace WorkerLint.Diagnostic

/-- The diagnostic stands on a single line, and the first mark on that line is its own. -/
structure Legible (diagnostic : Diagnostic) : Prop where
  flatFile : '\n' ∉ diagnostic.file
  unmarked : Unmarked diagnostic.file
  bounded : diagnostic.line < Text.wordBound
  flatMessage : '\n' ∉ diagnostic.message
  ended : diagnostic.message.getLast? ≠ some '\r'

theorem Legible.parse?_render {diagnostic : Diagnostic} (legible : diagnostic.Legible) :
    parse? diagnostic.render = some diagnostic :=
  Diagnostic.parse?_render diagnostic legible.flatFile legible.unmarked legible.bounded
    legible.flatMessage legible.ended

theorem legible_of_parse? (raw : Text) (found : Diagnostic) (read : parse? raw = some found) :
    found.Legible := by
  obtain ⟨flat, digits, mark, number⟩ := (parse?_eq_some_iff raw found).mp read
  have spelled := mark.spelled
  rw [spelled] at flat
  refine ⟨?_, mark.unmarked, ((Text.toWord?_eq_some_iff digits found.line).mp number).2.2.2, ?_, ?_⟩
  · intro member
    exact flat (by simp [member])
  · intro member
    exact flat (by simp [member])
  · intro last
    have whole : (Text.dropEndWhile isLineEnd raw).getLast? = some '\r' := by
      rw [spelled, List.getLast?_append, List.getLast?_cons, last]
      rfl
    have trimmed := Text.getLast?_dropEndWhile isLineEnd raw '\r' whole
    exact absurd trimmed (by decide)

theorem legible_of_parseAll (raw : List Text) : ∀ found ∈ parseAll raw, found.Legible := by
  intro found member
  obtain ⟨line, _, read⟩ := List.mem_filterMap.mp member
  exact legible_of_parse? line found read

theorem parse?_of_no_colon (raw : Text) (plain : ':' ∉ raw) : parse? raw = none := by
  rw [parse?_eq_none_iff]
  refine Or.inr (Or.inl (unmarked_of_no_colon _ ?_))
  exact fun member => plain ((Text.dropEndWhile_isPrefix isLineEnd raw).mem member)

theorem parseAll_render (findings : List Diagnostic)
    (legible : ∀ finding ∈ findings, finding.Legible) :
    parseAll (findings.map render) = findings := by
  induction findings with
  | nil => rfl
  | cons finding rest ih =>
      have read := (legible finding List.mem_cons_self).parse?_render
      have below := ih fun other member => legible other (List.mem_cons_of_mem finding member)
      rw [parseAll] at below
      rw [List.map_cons, parseAll, List.filterMap_cons_some read, below]

end WorkerLint.Diagnostic

namespace WorkerLint.Findings

def tally (findings : List Diagnostic) : List Text :=
  if findings = [] then [] else [Text.ofNat findings.length ++ " errors".toList]

theorem text_eq (findings : List Diagnostic) :
    text findings = (findings.map Diagnostic.render ++ tally findings).flatMap (· ++ ['\n']) := by
  by_cases none : findings = []
  · simp [text, tally, none]
  · have ending : " errors\n".toList = " errors".toList ++ ['\n'] := by decide
    simp [text, tally, none, ending, List.flatMap_map]

theorem tally_plain (findings : List Diagnostic) (line : Text) (member : line ∈ tally findings) :
    ':' ∉ line ∧ '\n' ∉ line ∧ line.getLast? ≠ some '\r' := by
  rw [tally] at member
  split at member
  · cases member
  · rw [List.mem_singleton] at member
    subst member
    have digital : ∀ c ∈ Text.ofNat findings.length, isDigit c = true :=
      (Diagnostic.numeral_ofNat findings.length).2
    have colon : ':' ∉ Text.ofNat findings.length := fun c => absurd (digital _ c) (by decide)
    have feed : '\n' ∉ Text.ofNat findings.length := fun c => absurd (digital _ c) (by decide)
    simp [colon, feed]

theorem parseAll_tally (findings : List Diagnostic) :
    Diagnostic.parseAll (tally findings) = [] := by
  apply List.filterMap_eq_nil_iff.mpr
  intro line member
  exact Diagnostic.parse?_of_no_colon line (tally_plain findings line member).1

theorem lines_text (findings : List Diagnostic)
    (legible : ∀ finding ∈ findings, finding.Legible) :
    Text.lines (text findings) = findings.map Diagnostic.render ++ tally findings := by
  rw [text_eq]
  apply Text.lines_flatMap
  · intro body member
    rcases List.mem_append.mp member with member | member
    · obtain ⟨finding, inside, rfl⟩ := List.mem_map.mp member
      have own := legible finding inside
      exact Diagnostic.lineFeed_not_mem_render finding own.flatFile own.flatMessage
    · exact (tally_plain findings body member).2.1
  · intro body member
    rcases List.mem_append.mp member with member | member
    · obtain ⟨finding, inside, rfl⟩ := List.mem_map.mp member
      have own := legible finding inside
      intro last
      have trimmed := Diagnostic.not_isLineEnd_of_render finding own.flatMessage own.ended _ last
      exact absurd trimmed (by decide)
    · exact (tally_plain findings body member).2.2

theorem parseAll_lines_text (findings : List Diagnostic)
    (legible : ∀ finding ∈ findings, finding.Legible) :
    Diagnostic.parseAll (Text.lines (text findings)) = findings := by
  rw [lines_text findings legible, Diagnostic.parseAll, List.filterMap_append,
    ← Diagnostic.parseAll, ← Diagnostic.parseAll, Diagnostic.parseAll_render findings legible,
    parseAll_tally, List.append_nil]

/-- Findings are read back from their printed text exactly if each of them is legible; only the
tally is no diagnostic. What is read from engine output is always legible, so that it is read back
once it is printed. -/
theorem text_read_back (findings : List Diagnostic) (raw : List Text) :
    ((∀ finding ∈ findings, finding.Legible) →
      Text.lines (text findings) = findings.map Diagnostic.render ++ tally findings) ∧
    Diagnostic.parseAll (tally findings) = [] ∧
    (Diagnostic.parseAll (Text.lines (text findings)) = findings ↔
      ∀ finding ∈ findings, finding.Legible) ∧
    (∀ finding ∈ Diagnostic.parseAll raw, finding.Legible) ∧
    Diagnostic.parseAll (Text.lines (text (Diagnostic.parseAll raw))) =
      Diagnostic.parseAll raw := by
  have own := Diagnostic.legible_of_parseAll raw
  refine ⟨lines_text findings, parseAll_tally findings, ⟨?_, parseAll_lines_text findings⟩, own,
    parseAll_lines_text _ own⟩
  -- What is read is legible, so nothing else can be equal to it.
  intro same
  rw [← same]
  exact Diagnostic.legible_of_parseAll _

def sampleFindings : List Diagnostic :=
  [⟨"a: line 1\r".toList, 0, "b.js: line 2,".toList⟩, ⟨[], 18446744073709551615, []⟩]

def sampleOutput : List Text :=
  ["b.js: line 007,x\r\n".toList, "1 error".toList, "c\nd: line 2,y".toList]

theorem text_read_back_sample :
    (∀ finding ∈ sampleFindings, finding.Legible) ∧
    Diagnostic.parseAll (Text.lines (text sampleFindings)) = sampleFindings ∧
    Diagnostic.parseAll (Text.lines (text (Diagnostic.parseAll sampleOutput))) =
      [⟨"b.js".toList, 7, ['x']⟩] := by
  have legible : ∀ finding ∈ sampleFindings, finding.Legible := by
    have marks : ∀ finding ∈ sampleFindings, Diagnostic.splitMark? finding.file = none := by
      decide
    intro finding member
    refine ⟨?_, (Diagnostic.splitMark?_eq_none_iff _).mp (marks finding member), ?_, ?_, ?_⟩
    all_goals
      revert finding
      decide
  obtain ⟨_, _, readable, _, again⟩ := text_read_back sampleFindings sampleOutput
  exact ⟨legible, readable.mpr legible, again.trans (by decide)⟩

end WorkerLint.Findings
