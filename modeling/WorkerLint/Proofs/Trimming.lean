import WorkerLint.Text
import Mathlib.Data.List.DropRight

namespace WorkerLint.Text

def TrimmedEnd (p : Char → Bool) (raw text : Text) : Prop :=
  (∃ tail, raw = text ++ tail ∧ ∀ c ∈ tail, p c = true) ∧ ∀ c ∈ text.getLast?, p c = false

variable (p : Char → Bool)

theorem dropEndWhile_eq_self (text : Text) (ends : ∀ c ∈ text.getLast?, p c = false) :
    dropEndWhile p text = text := by
  apply List.rdropWhile_eq_self_iff.mpr
  intro filled
  simp [ends _ (List.getLast?_eq_some_getLast filled)]

theorem dropEndWhile_append (text tail : Text) (run : ∀ c ∈ tail, p c = true) :
    dropEndWhile p (text ++ tail) = dropEndWhile p text := by
  have backwards : ∀ c ∈ tail.reverse, p c = true :=
    fun c member => run c (List.mem_reverse.mp member)
  rw [dropEndWhile, List.reverse_append, List.dropWhile_append_of_pos backwards, dropEndWhile]

theorem dropEndWhile_isPrefix (text : Text) : dropEndWhile p text <+: text :=
  List.rdropWhile_prefix p text

theorem getLast?_dropEndWhile (text : Text) :
    ∀ c ∈ (dropEndWhile p text).getLast?, p c = false := by
  intro c last
  have filled : text.rdropWhile p ≠ [] := by
    intro vacant
    rw [dropEndWhile, ← List.rdropWhile, vacant] at last
    cases last
  have stops := List.rdropWhile_last_not p text filled
  have same : (text.rdropWhile p).getLast filled = c := by
    rw [← Option.some_inj, ← List.getLast?_eq_some_getLast filled]
    exact last
  simpa [same] using stops

theorem trimmedEnd_iff (raw text : Text) : TrimmedEnd p raw text ↔ dropEndWhile p raw = text := by
  constructor
  · rintro ⟨⟨tail, rfl, run⟩, ends⟩
    rw [dropEndWhile_append p text tail run, dropEndWhile_eq_self p text ends]
  · rintro rfl
    refine ⟨⟨raw.rtakeWhile p, ?_, ?_⟩, getLast?_dropEndWhile p raw⟩
    · exact List.rdropWhile_append_rtakeWhile.symm
    · exact fun c member => List.mem_rtakeWhile_imp member

theorem strip_infix (text : Text) : strip p text <:+: text :=
  (dropEndWhile_isPrefix p _).isInfix.trans (List.dropWhile_suffix p).isInfix

theorem getLast?_strip (text : Text) : ∀ c ∈ (strip p text).getLast?, p c = false :=
  getLast?_dropEndWhile p (text.dropWhile p)

theorem head?_strip (text : Text) : ∀ c ∈ (strip p text).head?, p c = false := by
  intro c first
  have starts := List.head?_dropWhile_not p text
  obtain ⟨tail, whole⟩ := dropEndWhile_isPrefix p (text.dropWhile p)
  rw [Option.mem_def, List.head?_eq_some_iff] at first
  obtain ⟨rest, kept⟩ := first
  rw [← whole, ← strip, kept] at starts
  simpa using starts

theorem strip_append (lead core trail : Text) (before : ∀ c ∈ lead, p c = true)
    (behind : ∀ c ∈ trail, p c = true) (starts : ∀ c ∈ core.head?, p c = false)
    (ends : ∀ c ∈ core.getLast?, p c = false) : strip p (lead ++ core ++ trail) = core := by
  rw [strip, List.append_assoc, List.dropWhile_append_of_pos before]
  cases core with
  | nil =>
      have none : trail.dropWhile p = [] := List.dropWhile_eq_nil_iff.mpr behind
      rw [List.nil_append, none]
      rfl
  | cons c rest =>
      have stays : p c = false := starts c rfl
      rw [List.cons_append, List.dropWhile_cons_of_neg (by simp [stays]), ← List.cons_append,
        dropEndWhile_append p _ trail behind, dropEndWhile_eq_self p _ ends]

end WorkerLint.Text
