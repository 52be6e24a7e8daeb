import WorkerLint.Engine.Process
import WorkerLint.Proofs.WordGrammar

namespace WorkerLint

namespace Words

theorem pieces_quote (body word : Text) (closed : '\'' ∉ body) :
    Pieces ('\'' :: body ++ word.flatMap quoteChar ++ ['\'']) (body ++ word) := by
  induction word generalizing body with
  | nil => simpa using Pieces.cons (.single body closed) .nil
  | cons c word ih =>
      by_cases mark : c = '\''
      · -- the quote ends this part, stands escaped, and opens the next part
        subst mark
        have behind := ih [] List.not_mem_nil
        have marked := Pieces.cons (.single body closed)
          (.cons (.escaped '\'' (by decide)) behind)
        simpa [quoteChar] using marked
      · have longer : '\'' ∉ body ++ [c] := by simp [closed, Ne.symm mark]
        simpa [quoteChar, mark] using ih (body ++ [c]) longer

theorem reads_quote (word : Text) {text rest : Text} {words : List Text} (parted : Parted text)
    (behind : Reads text words rest) : Reads (quote word ++ text) (word :: words) rest := by
  have pieces : Pieces (quote word) word := by simpa [quote] using pieces_quote [] word
  exact .word pieces (by simp [quote]) (by simp [quote]) parted behind

theorem reads_unsplit (words : List Text) : Reads (unsplit words) words [] := by
  induction words with
  | nil => exact .here []
  | cons word more ih =>
      cases more with
      | nil => simpa [unsplit, Text.join] using reads_quote word (by simp [Parted]) (.here [])
      | cons next more =>
          have behind := Reads.gap ' ' (by decide) ih
          have parted : Parted (' ' :: unsplit (next :: more)) := by simp [Parted, isGap]
          simpa [unsplit, Text.join] using reads_quote word parted behind

theorem splits_unsplit (words : List Text) : Splits (unsplit words) words :=
  ⟨[], reads_unsplit words, .inl rfl⟩

theorem unsplit_injective : Function.Injective unsplit := by
  intro words others same
  have split := (splits_unsplit words).split?
  rw [same, (splits_unsplit others).split?] at split
  exact (Option.some.inj split).symm

end Words

namespace CommandLine

theorem parse_eq_ok_iff {command : Text} {config : Option Path} {line : CommandLine} :
    parse command config = .ok line ↔
      line.command = command ∧ line.config = config ∧
        Words.Splits command (line.program :: line.args) := by
  rw [← Words.split?_eq_some_iff]
  obtain ⟨given, program, args, passed⟩ := line
  rcases split : Words.split? command with - | - | ⟨first, rest⟩
  · simp [parse, split]
  · simp [parse, split]
  · simp only [parse, split, Except.ok.injEq, CommandLine.mk.injEq, Option.some.injEq,
      List.cons.injEq]
    constructor
    · rintro ⟨rfl, rfl, rfl, rfl⟩
      exact ⟨rfl, rfl, rfl, rfl⟩
    · rintro ⟨rfl, rfl, rfl, rfl⟩
      exact ⟨rfl, rfl, rfl, rfl⟩

theorem parse_eq_error_iff {command : Text} {config : Option Path} {fault : Fault} :
    parse command config = .error fault ↔
      fault = .engine command .noCommand ∧ (Words.Splits command [] ∨ Words.Broken command) := by
  rw [← Words.split?_eq_some_iff, ← Words.split?_eq_none_iff]
  rcases split : Words.split? command with - | - | ⟨first, rest⟩ <;>
    simp [parse, split, eq_comm]

def wordsOn (words : List Text) (config : Option Path) (file : Path) : List Bytes :=
  words.map Utf8.encode ++
    config.elim [] (fun path => [Utf8.encode "--config".toList, path.bytes]) ++ [file.bytes]

theorem argv_eq {words : List Text} {line : CommandLine}
    (meaning : line.program :: line.args = words) (file : Path) :
    line.argv file = wordsOn words line.config file := by
  subst meaning
  cases given : line.config <;> simp [argv, wordsOn, configWords, given]

theorem startWords_of_bare (host : Host σ) (stage : Option (Path × Text)) {argv : List Bytes}
    (bare : ∀ word ∈ argv, 0 ∉ word) (state : σ) :
    startWords host stage argv state =
      (host.start stage argv state).map fun (exit, after) => (exit.output, after) := by
  rw [startWords, if_neg]
  simpa using bare

theorem startWords_of_nul (host : Host σ) (stage : Option (Path × Text)) {argv : List Bytes}
    (nul : ∃ word ∈ argv, 0 ∈ word) (state : σ) :
    startWords host stage argv state = .error .nulInWord := by
  rw [startWords, if_pos]
  simpa using nul

theorem answer_of_target (line : CommandLine) {host : Host σ} {request : Request} {file : Path}
    (aimed : target host request = .ok file) (state : σ) :
    (line.engine host).answer request state =
      (startWords host (staged request file) (line.argv file) state).mapError
        (.engine line.command) := by
  simp only [engine, answer, aimed]
  cases startWords host (staged request file) (line.argv file) state <;> rfl

theorem answer_of_no_target (line : CommandLine) {host : Host σ} {request : Request}
    {cause : Cause} (failed : target host request = .error cause) (state : σ) :
    (line.engine host).answer request state = .error (.engine line.command cause) := by
  simp only [engine, answer, failed]

theorem parse_unsplit (words : List Text) (config : Option Path) (filled : words ≠ []) :
    ∃ line, parse (Words.unsplit words) config = .ok line ∧
      line.command = Words.unsplit words ∧ line.config = config ∧
        line.program :: line.args = words := by
  obtain ⟨program, args, rfl⟩ := List.exists_cons_of_ne_nil filled
  have splits := Words.splits_unsplit (program :: args)
  exact ⟨⟨_, program, args, config⟩, parse_eq_ok_iff.mpr ⟨rfl, rfl, splits⟩, rfl, rfl, rfl⟩

/-- The engine of a command starts a process on the given words, and answers with what the process
left behind or with why it could not be started. Words with NUL start nothing. -/
structure Sends (line : CommandLine) (words : Path → List Bytes) : Prop where
  argv : ∀ file, line.argv file = words file
  started : ∀ {σ : Type} (host : Host σ) (request : Request) (file : Path) (state : σ),
    target host request = .ok file → (∀ word ∈ words file, 0 ∉ word) →
      (line.engine host).answer request state =
        ((host.start (staged request file) (words file) state).map
          fun (exit, after) => (exit.output, after)).mapError (.engine line.command)
  refused : ∀ {σ : Type} (host : Host σ) (request : Request) (file : Path) (state : σ),
    target host request = .ok file → (∃ word ∈ words file, 0 ∈ word) →
      (line.engine host).answer request state = .error (.engine line.command .nulInWord)
  unaimed : ∀ {σ : Type} (host : Host σ) (request : Request) (cause : Cause) (state : σ),
    target host request = .error cause →
      (line.engine host).answer request state = .error (.engine line.command cause)

theorem sends_argv (line : CommandLine) : line.Sends line.argv where
  argv _ := rfl
  started host request file state aimed bare := by
    rw [answer_of_target line aimed, startWords_of_bare host _ bare]
  refused host request file state aimed nul := by
    rw [answer_of_target line aimed, startWords_of_nul host _ nul]
    rfl
  unaimed _ _ _ state failed := answer_of_no_target line failed state

/-- A command of quoted words starts a process on just these words, the configuration and the
file. A command is refused if it has no words, or if a quote in it stays open or its last backslash
stands alone; the refusal names all of it. -/
theorem command_words :
    (∀ (words : List Text) (config : Option Path), words ≠ [] →
      ∃ line, parse (Words.unsplit words) config = .ok line ∧
        line.command = Words.unsplit words ∧ line.Sends (wordsOn words config)) ∧
    ∀ (command : Text) (config : Option Path) (fault : Fault),
      parse command config = .error fault ↔
        fault = .engine command .noCommand ∧
          (Words.Splits command [] ∨ Words.Broken command) := by
  constructor
  · intro words config filled
    obtain ⟨line, parsed, whole, rfl, meaning⟩ := parse_unsplit words config filled
    have spelled : line.argv = wordsOn words line.config := funext (line.argv_eq meaning)
    exact ⟨line, parsed, whole, spelled ▸ line.sends_argv⟩
  · intro command config fault
    exact parse_eq_error_iff

def recordingHost : Host (List (List Bytes)) where
  scratch := .error .nulInWord
  start _ argv before := .ok (⟨[], [], true⟩, before ++ [argv])

theorem command_words_sample :
    (∃ line, parse "'' '#a' 'it'\\''s' 'b \\\"\n'".toList (some ⟨"c.json".toList⟩) = .ok line ∧
      (line.engine recordingHost).answer ⟨[], some ⟨"a.js".toList⟩⟩ [] =
        .ok (⟨true, []⟩, [["", "#a", "it's", "b \\\"\n", "--config", "c.json", "a.js"].map
          fun word => Utf8.encode word.toList])) ∧
    parse "lint 'open".toList none = .error (.engine "lint 'open".toList .noCommand) ∧
    parse " # lint".toList none = .error (.engine " # lint".toList .noCommand) := by
  obtain ⟨quoted, refused⟩ := command_words
  refine ⟨?_, ?_, ?_⟩
  · let words := ["", "#a", "it's", "b \\\"\n"].map String.toList
    obtain ⟨line, parsed, -, sends⟩ := quoted words (some ⟨"c.json".toList⟩) (by decide)
    refine ⟨line, parsed, ?_⟩
    rw [sends.started recordingHost ⟨[], some ⟨"a.js".toList⟩⟩ ⟨"a.js".toList⟩ [] rfl (by decide)]
    rfl
  · exact (refused _ none _).mpr ⟨rfl, .inr (Words.split?_eq_none_iff.mp (by decide))⟩
  · exact (refused _ none _).mpr ⟨rfl, .inl (Words.split?_eq_some_iff.mp (by decide))⟩

end CommandLine

end WorkerLint
