import WorkerLint.Directive
import Mathlib.Tactic.ByContra

namespace WorkerLint.Directive

/-- A call with these arguments stands at the start of the text: the token, blanks, and all up to
the first closing parenthesis. -/
def CallAt (text arguments : Text) : Prop :=
  ∃ blanks after, (∀ c ∈ blanks, isBlank c = true) ∧ ')' ∉ arguments ∧
    text = token ++ blanks ++ '(' :: arguments ++ ')' :: after

def HasCall (line : Text) : Prop :=
  ∃ before blanks arguments after, (∀ c ∈ blanks, isBlank c = true) ∧ ')' ∉ arguments ∧
    line = before ++ token ++ blanks ++ '(' :: arguments ++ ')' :: after

def Malformed (line : Text) : Prop :=
  token <:+: line ∧ ¬ HasCall line

def FirstMalformed (lines : List Text) (line : Text) : Prop :=
  ∃ before after, lines = before ++ line :: after ∧ Malformed line ∧
    ∀ earlier ∈ before, ¬ Malformed earlier

theorem mentions_eq_true_iff (line : Text) : mentions line = true ↔ token <:+: line :=
  Text.contains_eq_true_iff token line

theorem takeWhile_run (p : Char → Bool) (run rest : Text) (stop : Char)
    (inside : ∀ c ∈ run, p c = true) (stops : p stop = false) :
    (run ++ stop :: rest).takeWhile p = run := by
  rw [List.takeWhile_append_of_pos inside, List.takeWhile_cons_of_neg (by simp [stops]),
    List.append_nil]

theorem takeWhile_arguments (arguments after : Text) (closed : ')' ∉ arguments) :
    (arguments ++ ')' :: after).takeWhile (· ≠ ')') = arguments := by
  apply takeWhile_run
  · intro c member
    exact decide_eq_true fun same => closed (same ▸ member)
  · decide

theorem argumentsAt?_eq_some_iff (text arguments : Text) :
    argumentsAt? text = some arguments ↔ CallAt text arguments := by
  rw [argumentsAt?]
  constructor
  · intro found
    split at found
    · cases found
    · rename_i rest lead
      have start := (Text.after?_eq_some_iff token text rest).mp lead
      split at found
      · rename_i body opened
        split at found
        · rename_i closing
          obtain ⟨inner, after, rfl, closed⟩ := List.eq_append_cons_of_mem closing
          rw [takeWhile_arguments inner after closed] at found
          cases found
          refine ⟨rest.takeWhile isBlank, after, ?_, closed, ?_⟩
          · exact fun c member => List.all_eq_true.mp List.all_takeWhile c member
          · have parted := List.takeWhile_append_dropWhile (p := isBlank) (l := rest)
            rw [opened] at parted
            rw [start, ← parted]
            simp [parted]
        · cases found
      · cases found
  · rintro ⟨blanks, after, padding, closed, rfl⟩
    have lead : Text.after? token (token ++ blanks ++ '(' :: arguments ++ ')' :: after) =
        some (blanks ++ '(' :: (arguments ++ ')' :: after)) := by
      rw [Text.after?_eq_some_iff]
      simp
    have opening : isBlank '(' = false := by decide
    rw [lead]
    simp only [List.dropWhile_append_of_pos padding, List.dropWhile_cons, opening]
    simpa using takeWhile_arguments arguments after closed

theorem hasCall_of_callAt {text arguments : Text} (call : CallAt text arguments) :
    HasCall text := by
  obtain ⟨blanks, after, padding, closed, rfl⟩ := call
  exact ⟨[], blanks, arguments, after, padding, closed, rfl⟩

theorem hasCall_cons_iff (c : Char) (rest : Text) :
    HasCall (c :: rest) ↔ (∃ arguments, CallAt (c :: rest) arguments) ∨ HasCall rest := by
  constructor
  · rintro ⟨before, blanks, arguments, after, padding, closed, spelled⟩
    cases before with
    | nil => exact Or.inl ⟨arguments, blanks, after, padding, closed, spelled⟩
    | cons d before =>
        right
        exact ⟨before, blanks, arguments, after, padding, closed, (List.cons.inj spelled).2⟩
  · rintro (⟨arguments, call⟩ | ⟨before, blanks, arguments, after, padding, closed, rfl⟩)
    · exact hasCall_of_callAt call
    · exact ⟨c :: before, blanks, arguments, after, padding, closed, rfl⟩

theorem not_hasCall_nil : ¬ HasCall [] := by
  rintro ⟨before, blanks, arguments, after, _, _, spelled⟩
  simp at spelled

theorem arguments?_eq_none_iff (line : Text) : arguments? line = none ↔ ¬ HasCall line := by
  induction line with
  | nil => exact ⟨fun _ => not_hasCall_nil, fun _ => rfl⟩
  | cons c rest ih =>
      rw [arguments?, hasCall_cons_iff]
      cases found : argumentsAt? (c :: rest) with
      | some arguments =>
          have call := (argumentsAt?_eq_some_iff _ arguments).mp found
          simp only [reduceCtorEq, false_iff]
          exact fun none => none (Or.inl ⟨arguments, call⟩)
      | none =>
          have outside : ¬ ∃ arguments, CallAt (c :: rest) arguments := by
            rintro ⟨arguments, call⟩
            rw [(argumentsAt?_eq_some_iff _ arguments).mpr call] at found
            cases found
          simp only [ih, outside, false_or]

theorem imports_of_hasCall (line : Text) (call : HasCall line) :
    ∃ names, imports line = .ok names := by
  rw [imports]
  cases found : arguments? line with
  | some arguments => exact ⟨_, rfl⟩
  | none => exact absurd call ((arguments?_eq_none_iff line).mp found)

theorem imports_of_no_call (line : Text) (none : ¬ HasCall line) :
    imports line = .error (.malformed (Text.trimEnd line)) := by
  rw [imports, (arguments?_eq_none_iff line).mpr none]

theorem allImports_cons_of_wellFormed (line : Text) (rest : List Text)
    (formed : ¬ Malformed line) (fault : Fault) :
    allImports (line :: rest) = .error fault ↔ allImports rest = .error fault := by
  rw [allImports]
  split
  · rename_i mentioned
    have call : HasCall line := by
      by_contra missing
      exact formed ⟨(mentions_eq_true_iff line).mp mentioned, missing⟩
    obtain ⟨names, read⟩ := imports_of_hasCall line call
    rw [read]
    cases allImports rest <;> simp
  · rfl

theorem allImports_cons_of_malformed (line : Text) (rest : List Text) (bad : Malformed line) :
    allImports (line :: rest) = .error (.malformed (Text.trimEnd line)) := by
  rw [allImports, if_pos ((mentions_eq_true_iff line).mpr bad.1), imports_of_no_call line bad.2]

theorem allImports_of_firstMalformed (lines : List Text) (line : Text)
    (first : FirstMalformed lines line) :
    allImports lines = .error (.malformed (Text.trimEnd line)) := by
  obtain ⟨before, after, rfl, bad, formed⟩ := first
  induction before with
  | nil => exact allImports_cons_of_malformed line after bad
  | cons earlier before ih =>
      rw [List.cons_append, allImports_cons_of_wellFormed _ _ (formed earlier List.mem_cons_self)]
      exact ih fun other member => formed other (List.mem_cons_of_mem earlier member)

theorem allImports_of_wellFormed (lines : List Text) (formed : ∀ line ∈ lines, ¬ Malformed line) :
    ∃ names, allImports lines = .ok names := by
  induction lines with
  | nil => exact ⟨[], rfl⟩
  | cons line rest ih =>
      obtain ⟨names, below⟩ :=
        ih fun other member => formed other (List.mem_cons_of_mem line member)
      cases read : allImports (line :: rest) with
      | ok names => exact ⟨names, rfl⟩
      | error fault =>
          rw [allImports_cons_of_wellFormed line rest (formed line List.mem_cons_self),
            below] at read
          cases read

theorem collect_of_firstMalformed (lines : List Text) (line : Text)
    (first : FirstMalformed lines line) :
    collect lines = .error (.malformed (Text.trimEnd line)) := by
  rw [collect, allImports_of_firstMalformed lines line first]

theorem collect_of_wellFormed (lines : List Text) (formed : ∀ line ∈ lines, ¬ Malformed line) :
    ∃ imports, collect lines = .ok imports := by
  obtain ⟨names, read⟩ := allImports_of_wellFormed lines formed
  exact ⟨distinct names, by rw [collect, read]⟩

theorem exists_firstMalformed (lines : List Text) (some : ∃ line ∈ lines, Malformed line) :
    ∃ line, FirstMalformed lines line := by
  induction lines with
  | nil =>
      obtain ⟨_, member, _⟩ := some
      cases member
  | cons line rest ih =>
      by_cases bad : Malformed line
      · exact ⟨line, [], rest, rfl, bad, by simp⟩
      · obtain ⟨other, member, worse⟩ := some
        have below : other ∈ rest := by
          rcases List.mem_cons.mp member with rfl | below
          · exact absurd worse bad
          · exact below
        obtain ⟨first, before, after, rfl, found, formed⟩ := ih ⟨other, below, worse⟩
        refine ⟨first, line :: before, after, rfl, found, ?_⟩
        intro earlier member
        rcases List.mem_cons.mp member with rfl | member
        · exact bad
        · exact formed earlier member

end WorkerLint.Directive
