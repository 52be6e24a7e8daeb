import WorkerLint.Proofs.DirectiveGrammar
import WorkerLint.Proofs.LintRuns

namespace WorkerLint

namespace Directive

theorem any_mentions_eq_true_iff (lines : List Text) :
    lines.any mentions = true ↔ ∃ line ∈ lines, token <:+: line := by
  simp only [List.any_eq_true, mentions_eq_true_iff]

theorem lines_cases (lines : List Text) :
    (∀ line ∈ lines, ¬ token <:+: line) ∨ (∃ line, FirstMalformed lines line) ∨
      ((∃ line ∈ lines, token <:+: line) ∧ ∀ line ∈ lines, ¬ Malformed line) := by
  by_cases mentioned : ∃ line ∈ lines, token <:+: line
  · right
    by_cases malformed : ∃ line ∈ lines, Malformed line
    · exact Or.inl (exists_firstMalformed lines malformed)
    · exact Or.inr ⟨mentioned, fun line member bad => malformed ⟨line, member, bad⟩⟩
  · exact Or.inl fun line member inside => mentioned ⟨line, member, inside⟩

end Directive

namespace Lint

theorem file_of_unreadable (reader : Reader) (engine : Engine σ) (path : Path) (state : σ)
    (fault : Fault) (unread : reader.read path = .error fault) :
    file reader engine path state = ⟨[], .error fault, state⟩ := by
  rw [file, unread]
  rfl

theorem file_of_malformed (reader : Reader) (engine : Engine σ) (path : Path) (state : σ)
    (text line : Text) (readable : reader.read path = .ok text)
    (first : Directive.FirstMalformed (Text.splitLines text) line) :
    file reader engine path state = ⟨[], .error (.malformed (Text.trimEnd line)), state⟩ := by
  have refused := Directive.collect_of_firstMalformed _ line first
  have mentioned : (Text.splitLines text).any Directive.mentions = true := by
    obtain ⟨before, after, parts, bad, _⟩ := first
    apply (Directive.any_mentions_eq_true_iff _).mpr
    exact ⟨line, by simp [parts], bad.1⟩
  rcases file_cases reader engine path text readable state with
    ⟨unmentioned, _⟩ | ⟨_, fault, collected, run⟩ | ⟨_, imports, collected, _⟩
  · rw [mentioned] at unmentioned
    cases unmentioned
  · rw [refused] at collected
    cases collected
    exact run
  · rw [refused] at collected
    cases collected

theorem file_of_unmentioned (reader : Reader) (engine : Engine σ) (path : Path) (state : σ)
    (text : Text) (readable : reader.read path = .ok text)
    (unmentioned : ∀ line ∈ Text.splitLines text, ¬ Directive.token <:+: line) :
    file reader engine path state = direct engine path text state := by
  have mentioned : ¬ (Text.splitLines text).any Directive.mentions = true := by
    rw [Directive.any_mentions_eq_true_iff]
    rintro ⟨line, member, inside⟩
    exact unmentioned line member inside
  rcases file_cases reader engine path text readable state with ⟨_, run⟩ | ⟨some, _⟩ | ⟨some, _⟩
  · exact run
  · exact absurd some mentioned
  · exact absurd some mentioned

theorem file_of_imports (reader : Reader) (engine : Engine σ) (path : Path) (state : σ)
    (text : Text) (readable : reader.read path = .ok text) (imports : List Text)
    (mentioned : ∃ line ∈ Text.splitLines text, Directive.token <:+: line)
    (collected : Directive.collect (Text.splitLines text) = .ok imports) :
    (file reader engine path state).value = (merged reader engine path imports state).value ∧
      (file reader engine path state).calls =
        (merged reader engine path imports state).calls := by
  rcases file_cases reader engine path text readable state with
    ⟨unmentioned, _⟩ | ⟨_, fault, refused, _⟩ | ⟨_, names, found, value, calls⟩
  · rw [(Directive.any_mentions_eq_true_iff _).mpr mentioned] at unmentioned
    cases unmentioned
  · rw [collected] at refused
    cases refused
  · rw [collected] at found
    cases found
    exact ⟨value, calls⟩

theorem mode_merged (reader : Reader) (engine : Engine σ) (path : Path) (imports : List Text)
    (state : σ) (report : Report)
    (done : (merged reader engine path imports state).value.1 = .ok report) :
    report.mode = .merged := by
  rw [merged_run] at done
  dsimp only at done
  cases answer : engine.answer ⟨(Bundle.assemble reader path imports).value.text, none⟩ state with
  | error fault =>
      rw [answer] at done
      cases done
  | ok result =>
      rw [answer] at done
      cases done
      rfl

/-- Two runs take the same course: they go to the engine as often and with the same file, those
that stop before stop alike, and reports have one mode. -/
structure SameCourse (first second : Traced (Except Fault Report × σ)) : Prop where
  files : first.calls.map Request.file = second.calls.map Request.file
  stopped : first.calls = [] → first.value = second.value
  mode : ∀ report report', first.value.1 = .ok report → second.value.1 = .ok report' →
    report.mode = report'.mode

theorem SameCourse.refl (run : Traced (Except Fault Report × σ)) : SameCourse run run where
  files := rfl
  stopped _ := rfl
  mode report report' done done' := by
    rw [done] at done'
    cases done'
    rfl

theorem sameCourse_of_merged (reader other : Reader) (engine : Engine σ) (path : Path)
    (imports : List Text) (state : σ) (first second : Traced (Except Fault Report × σ))
    (value : first.value = (merged reader engine path imports state).value)
    (calls : first.calls = (merged reader engine path imports state).calls)
    (value' : second.value = (merged other engine path imports state).value)
    (calls' : second.calls = (merged other engine path imports state).calls) :
    SameCourse first second := by
  rw [calls_merged] at calls calls'
  refine ⟨by rw [calls, calls']; rfl, ?_, ?_⟩
  · intro none
    rw [calls] at none
    cases none
  · intro report report' done done'
    rw [value] at done
    rw [value'] at done'
    rw [mode_merged _ _ _ _ _ _ done, mode_merged _ _ _ _ _ _ done']

theorem file_sameCourse (reader other : Reader) (engine : Engine σ) (path : Path) (state : σ)
    (alike : reader.read path = other.read path) :
    SameCourse (file reader engine path state) (file other engine path state) := by
  cases read : other.read path with
  | error fault =>
      rw [read] at alike
      rw [file_of_unreadable reader engine path state fault alike,
        file_of_unreadable other engine path state fault read]
      exact SameCourse.refl _
  | ok text =>
      rw [read] at alike
      rcases Directive.lines_cases (Text.splitLines text) with
        unmentioned | ⟨line, first⟩ | ⟨mentioned, formed⟩
      · rw [file_of_unmentioned reader engine path state text alike unmentioned,
          file_of_unmentioned other engine path state text read unmentioned]
        exact SameCourse.refl _
      · rw [file_of_malformed reader engine path state text line alike first,
          file_of_malformed other engine path state text line read first]
        exact SameCourse.refl _
      · obtain ⟨imports, collected⟩ := Directive.collect_of_wellFormed _ formed
        obtain ⟨value, calls⟩ :=
          file_of_imports reader engine path state text alike imports mentioned collected
        obtain ⟨value', calls'⟩ :=
          file_of_imports other engine path state text read imports mentioned collected
        exact sameCourse_of_merged reader other engine path imports state _ _ value calls
          value' calls'

theorem length_calls_file (reader : Reader) (engine : Engine σ) (path : Path) (state : σ) :
    (file reader engine path state).calls.length ≤ 1 := by
  cases read : reader.read path with
  | error fault =>
      rw [file_of_unreadable reader engine path state fault read]
      exact Nat.zero_le 1
  | ok text =>
      rcases file_cases reader engine path text read state with
        ⟨_, run⟩ | ⟨_, fault, _, run⟩ | ⟨_, imports, _, _, calls⟩
      · rw [run, calls_direct]
        exact Nat.le_refl 1
      · rw [run]
        exact Nat.zero_le 1
      · rw [calls, calls_merged]
        exact Nat.le_refl 1

/-- A file that cannot be read, or that has a malformed line, is not taken to the engine, and the
fault says so: the reader's own, or the first malformed line without the blanks behind it. Any
other file is taken there once, as it stands if no line mentions the directive and as a bundle if
one does, and from there on only the engine can fail. Readers that read the file itself alike,
whatever else they hold, take it the same way. -/
theorem file_contract (reader : Reader) (engine : Engine σ) (path : Path) (state : σ) :
    let run := file reader engine path state
    run.calls.length ≤ 1 ∧
    (∀ fault, reader.read path = .error fault →
      run.calls = [] ∧ run.value = (.error fault, state)) ∧
    (∀ text, reader.read path = .ok text →
      let lines := Text.splitLines text
      ((∃ line ∈ lines, Directive.Malformed line) →
        ∃ line, Directive.FirstMalformed lines line ∧ run.calls = [] ∧
          run.value = (.error (.malformed (Text.trimEnd line)), state)) ∧
      ((∀ line ∈ lines, ¬ Directive.token <:+: line) →
        run.calls = [⟨text, some path⟩] ∧
          run.value = settle directReport state (engine.answer ⟨text, some path⟩ state)) ∧
      ((∃ line ∈ lines, Directive.token <:+: line) →
        (∀ line ∈ lines, ¬ Directive.Malformed line) →
        ∃ imports, Directive.collect lines = .ok imports ∧
          let bundle := (Bundle.assemble reader path imports).value
          run.calls = [⟨bundle.text, none⟩] ∧
            run.value =
              settle (mergedReport bundle path) state (engine.answer ⟨bundle.text, none⟩ state))) ∧
    (∀ other : Reader, reader.read path = other.read path →
      SameCourse run (file other engine path state)) := by
  intro run
  refine ⟨length_calls_file reader engine path state, ?_, ?_,
    fun other => file_sameCourse reader other engine path state⟩
  · intro fault unread
    have stopped : run = _ := file_of_unreadable reader engine path state fault unread
    rw [stopped]
    exact ⟨rfl, rfl⟩
  · intro text readable lines
    refine ⟨?_, ?_, ?_⟩
    · intro some
      obtain ⟨line, first⟩ := Directive.exists_firstMalformed lines some
      have stopped : run = _ := file_of_malformed reader engine path state text line readable first
      rw [stopped]
      exact ⟨line, first, rfl, rfl⟩
    · intro unmentioned
      have alone : run = _ := file_of_unmentioned reader engine path state text readable unmentioned
      rw [alone, calls_direct, direct_run]
      exact ⟨rfl, rfl⟩
    · intro mentioned formed
      obtain ⟨imports, collected⟩ := Directive.collect_of_wellFormed lines formed
      obtain ⟨value, calls⟩ :=
        file_of_imports reader engine path state text readable imports mentioned collected
      refine ⟨imports, collected, ?_, ?_⟩
      · exact calls.trans (calls_merged reader engine path imports state)
      · exact value.trans (congrArg Traced.value (merged_run reader engine path imports state))

def sampleMention : Text :=
  "importScripts('a.js');\nf = importScripts; \n".toList

theorem file_contract_sample :
    let path : Path := ⟨"m.js".toList⟩
    let shelf : Shelf := ⟨[(path, some sampleMention)]⟩
    let other : Shelf := ⟨[(path, some sampleMention), (⟨"a.js".toList⟩, none)]⟩
    let engine : Engine Unit := Engine.failing (.engine [] .noCommand)
    (∃ line, Directive.FirstMalformed (Text.splitLines sampleMention) line ∧
      (file shelf.reader engine path ()).value = (.error (.malformed (Text.trimEnd line)), ())) ∧
    SameCourse (file shelf.reader engine path ()) (file other.reader engine path ()) := by
  intro path shelf other engine
  obtain ⟨_, _, read, agree⟩ := file_contract shelf.reader engine path ()
  have bad : Directive.Malformed "f = importScripts; \n".toList :=
    ⟨(Directive.mentions_eq_true_iff _).mp (by decide),
      (Directive.arguments?_eq_none_iff _).mp (by decide)⟩
  obtain ⟨refused, _⟩ := read sampleMention rfl
  obtain ⟨line, first, _, value⟩ := refused ⟨_, by decide, bad⟩
  exact ⟨⟨line, first, value⟩, agree other.reader rfl⟩

end Lint

end WorkerLint
