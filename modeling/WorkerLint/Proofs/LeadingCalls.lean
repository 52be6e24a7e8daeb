import WorkerLint.Proofs.DirectiveGrammar
import Mathlib.Data.List.Infix

namespace WorkerLint.Directive

def calls : Text → List Text
  | [] => []
  | c :: rest => (argumentsAt? (c :: rest)).toList ++ calls rest

def writtenNames (line : Text) : List Text :=
  (calls line).flatMap names

def leadingNames (line : Text) : List Text :=
  ((calls line).take 1).flatMap names

def AllCalled (line : Text) : Prop :=
  ∀ rest, rest <:+ line → token <+: rest → ∃ arguments, CallAt rest arguments

/-- No call on the line holds another call. -/
def Unnested (line : Text) : Prop :=
  ∀ rest, rest <:+ line → ∀ arguments, CallAt rest arguments → ¬ HasCall (arguments ++ [')'])

instance (line : Text) : Decidable (AllCalled line) :=
  decidable_of_iff (∀ rest ∈ line.tails, token <+: rest → (argumentsAt? rest).isSome) (by
    simp only [AllCalled, List.mem_tails, Option.isSome_iff_exists, argumentsAt?_eq_some_iff])

instance (line : Text) : Decidable (Unnested line) :=
  decidable_of_iff (∀ rest ∈ line.tails, ∀ arguments ∈ argumentsAt? rest,
      arguments? (arguments ++ [')']) = none) (by
    simp only [Unnested, List.mem_tails, Option.mem_def, argumentsAt?_eq_some_iff,
      arguments?_eq_none_iff])

theorem arguments?_eq_head? (line : Text) : arguments? line = (calls line).head? := by
  induction line with
  | nil => rfl
  | cons c rest ih =>
      rw [arguments?, calls]
      cases argumentsAt? (c :: rest) with
      | some arguments => rfl
      | none => exact ih

theorem leadingNames_eq (line : Text) :
    leadingNames line = ((arguments? line).map names).getD [] := by
  rw [arguments?_eq_head?, leadingNames]
  cases calls line with
  | nil => rfl
  | cons arguments more => simp

theorem mentions_of_hasCall (line : Text) (call : HasCall line) : mentions line = true := by
  obtain ⟨before, blanks, arguments, after, _, _, rfl⟩ := call
  rw [mentions_eq_true_iff]
  exact ⟨before, blanks ++ '(' :: arguments ++ ')' :: after, by simp⟩

theorem leadingNames_of_unmentioned (line : Text) (unmentioned : mentions line = false) :
    leadingNames line = [] := by
  have none : ¬ HasCall line := by
    intro call
    rw [mentions_of_hasCall line call] at unmentioned
    cases unmentioned
  rw [leadingNames_eq, (arguments?_eq_none_iff line).mpr none]
  rfl

theorem allImports_eq_leadingNames (lines : List Text) (found : List Text)
    (read : allImports lines = .ok found) : found = lines.flatMap leadingNames := by
  induction lines generalizing found with
  | nil =>
      cases read
      rfl
  | cons line rest ih =>
      rw [allImports] at read
      rw [List.flatMap_cons]
      split at read
      · rw [imports] at read
        cases call : arguments? line with
        | none => simp [call] at read
        | some arguments =>
            have own : leadingNames line = names arguments := by
              rw [leadingNames_eq, call]
              rfl
            cases below : allImports rest with
            | error fault => simp [call, below] at read
            | ok more =>
                simp only [call, below, Except.ok.injEq] at read
                rw [← read, own, ← ih more below]
      · rename_i unmentioned
        rw [leadingNames_of_unmentioned line (by simpa using unmentioned), ← ih found read]
        rfl

theorem AllCalled.not_malformed {line : Text} (called : AllCalled line) : ¬ Malformed line := by
  rintro ⟨⟨before, after, rfl⟩, missing⟩
  obtain ⟨arguments, call⟩ :=
    called (token ++ after) ⟨before, by simp⟩ (List.prefix_append token after)
  obtain ⟨blanks, rest, padding, closed, spelled⟩ := call
  refine missing ⟨before, blanks, arguments, rest, padding, closed, ?_⟩
  rw [List.append_assoc, spelled]
  simp

theorem distinct_drop (front known more : List Text) (old : known ⊆ front) :
    distinct (front ++ known ++ more) = distinct (front ++ more) := by
  have none : known.removeAll front = [] := by
    rw [List.removeAll, List.filter_eq_nil_iff]
    intro name member
    simpa using old member
  have kept : more.removeAll (front ++ known) = more.removeAll front := by
    apply List.filter_congr
    intro name _
    have same : name ∈ front ∨ name ∈ known ↔ name ∈ front :=
      ⟨fun some => some.elim id fun member => old member, Or.inl⟩
    simp [same]
  simp only [distinct, List.eraseDups_append, none, List.eraseDups_nil, List.append_nil, kept]

theorem writtenNames_eq (line : Text) :
    writtenNames line = leadingNames line ++ ((calls line).drop 1).flatMap names := by
  rw [writtenNames, leadingNames, ← List.flatMap_append, List.take_append_drop]

theorem distinct_writtenNames (front : List Text) (lines : List Text)
    (idle : ∀ line ∈ lines, ((calls line).drop 1).flatMap names ⊆ leadingNames line) :
    distinct (front ++ lines.flatMap writtenNames) =
      distinct (front ++ lines.flatMap leadingNames) := by
  induction lines generalizing front with
  | nil => rfl
  | cons line rest ih =>
      have own := idle line List.mem_cons_self
      have below := fun other member => idle other (List.mem_cons_of_mem line member)
      have step := distinct_drop (front ++ leadingNames line) _ (rest.flatMap writtenNames)
        fun name member => List.mem_append_right front (own member)
      calc
        distinct (front ++ (line :: rest).flatMap writtenNames) =
            distinct (front ++ leadingNames line ++ ((calls line).drop 1).flatMap names ++
              rest.flatMap writtenNames) := by
          simp [writtenNames_eq line]
        _ = distinct (front ++ leadingNames line ++ rest.flatMap writtenNames) := step
        _ = distinct (front ++ (line :: rest).flatMap leadingNames) := by
          rw [ih _ below]
          simp

/-- Where every mention of the directive is a call, a script imports the names of the leading calls
of its lines, each once. These are the names of all calls if no other call imports what the leading
one of its line does not, and are not if a name is written in other calls only. -/
theorem collect_leadingNames (lines : List Text) (called : ∀ line ∈ lines, AllCalled line) :
    let written := lines.flatMap writtenNames
    let leading := lines.flatMap leadingNames
    collect lines = .ok (distinct leading) ∧
    (collect lines = .ok (distinct written) ↔ distinct leading = distinct written) ∧
    ((∀ line ∈ lines, ((calls line).drop 1).flatMap names ⊆ leadingNames line) →
      collect lines = .ok (distinct written)) ∧
    ((∃ name ∈ written, name ∉ leading) → collect lines ≠ .ok (distinct written)) := by
  intro written leading
  have value : collect lines = .ok (distinct leading) := by
    obtain ⟨found, read⟩ :=
      allImports_of_wellFormed lines fun line member => (called line member).not_malformed
    rw [collect, read, allImports_eq_leadingNames lines found read]
  refine ⟨value, ?_, ?_, ?_⟩
  · rw [value, Except.ok.injEq]
  · intro idle
    rw [value]
    exact congrArg Except.ok (distinct_writtenNames [] lines idle).symm
  · rintro ⟨name, member, missed⟩ equal
    rw [value, Except.ok.injEq] at equal
    have kept : name ∈ distinct leading := by
      rw [equal]
      exact List.mem_eraseDups.mpr member
    exact missed (List.mem_eraseDups.mp kept)

theorem collect_leadingNames_sample :
    collect ["importScripts('a.js', 'b.js');importScripts('b.js');\n".toList, "f();\n".toList,
      "importScripts('c.js', 'a.js');\n".toList] =
      .ok ["a.js".toList, "b.js".toList, "c.js".toList] := by
  obtain ⟨_, _, idle, _⟩ := collect_leadingNames
    ["importScripts('a.js', 'b.js');importScripts('b.js');\n".toList, "f();\n".toList,
      "importScripts('c.js', 'a.js');\n".toList] (by decide)
  exact (idle (by decide)).trans (by decide)

def sampleTwoCalls : Text :=
  "importScripts('a.js'); importScripts('b.js');\n".toList

theorem collect_misses_call :
    ¬ ∀ lines : List Text, (∀ line ∈ lines, AllCalled line) → (∀ line ∈ lines, Unnested line) →
      collect lines = .ok (distinct (lines.flatMap writtenNames)) := by
  intro complete
  have all := complete [sampleTwoCalls] (by decide) (by decide)
  have written : [sampleTwoCalls].flatMap writtenNames = ["a.js".toList, "b.js".toList] := by decide
  have read : collect [sampleTwoCalls] = .ok ["a.js".toList] := by decide
  rw [written, read] at all
  revert all
  decide

end WorkerLint.Directive
