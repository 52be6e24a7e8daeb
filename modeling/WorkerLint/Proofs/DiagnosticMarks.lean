import WorkerLint.Diagnostic
import WorkerLint.Proofs.Trimming

namespace WorkerLint

theorem isDigit_of_ascii (c : Char) (digit : c.isDigit = true) : isDigit c = true := by
  simp only [Char.isDigit, Bool.and_eq_true, decide_eq_true_eq] at digit
  have lower : 0x30 ≤ c.toNat := UInt32.le_iff_toNat_le.mp digit.1
  have upper : c.toNat ≤ 0x39 := UInt32.le_iff_toNat_le.mp digit.2
  rw [isDigit, List.any_eq_true]
  refine ⟨0x30, List.mem_cons_self, ?_⟩
  simp only [Bool.and_eq_true, decide_eq_true_eq]
  omega

namespace Diagnostic

def Numeral (digits : Text) : Prop :=
  digits ≠ [] ∧ ∀ c ∈ digits, isDigit c = true

def Unmarked (text : Text) : Prop :=
  ∀ before digits after, Numeral digits → text ≠ before ++ lineMark ++ digits ++ ',' :: after

theorem numeral_ofNat (n : Nat) : Numeral (Text.ofNat n) := by
  refine ⟨Nat.toDigits_ne_nil, ?_⟩
  intro c member
  exact isDigit_of_ascii c (Nat.isDigit_of_mem_toDigits (by decide) (by decide) member)

theorem markAt?_eq_some_iff (text digits message : Text) :
    markAt? text = some (digits, message) ↔
      Numeral digits ∧ text = lineMark ++ digits ++ ',' :: message := by
  rw [markAt?]
  constructor
  · intro found
    split at found
    · cases found
    · rename_i rest lead
      have start := (Text.after?_eq_some_iff lineMark text rest).mp lead
      simp only at found
      split at found
      · rename_i tail behind
        split at found
        · cases found
        · rename_i filled
          cases found
          refine ⟨⟨filled, fun c member => List.all_eq_true.mp List.all_takeWhile c member⟩, ?_⟩
          rw [start, List.append_assoc, ← behind, List.takeWhile_append_dropWhile]
      · cases found
  · rintro ⟨⟨filled, digital⟩, rfl⟩
    have lead : Text.after? lineMark (lineMark ++ digits ++ ',' :: message) =
        some (digits ++ ',' :: message) := by
      rw [Text.after?_eq_some_iff, List.append_assoc]
    have comma : isDigit ',' = false := by decide
    rw [lead]
    simp [List.takeWhile_append_of_pos digital, List.dropWhile_append_of_pos digital, comma, filled]

theorem Unmarked.tail {c : Char} {rest : Text} (unmarked : Unmarked (c :: rest)) :
    Unmarked rest := by
  intro before digits after numeral spelled
  apply unmarked (c :: before) digits after numeral
  simp [spelled]

theorem unmarked_of_no_colon (text : Text) (plain : ':' ∉ text) : Unmarked text := by
  rintro before digits after _ rfl
  have colon : ':' ∈ lineMark := by decide
  apply plain
  apply List.mem_append_left
  apply List.mem_append_left
  exact List.mem_append_right before colon

theorem colon_not_mem_mark (digits : Text) (numeral : Numeral digits) :
    ':' ∉ (lineMark ++ digits ++ [',']).tail := by
  have front : ':' ∉ lineMark.tail := by decide
  have middle : ':' ∉ digits := fun member => absurd (numeral.2 ':' member) (by decide)
  have parts : (lineMark ++ digits ++ [',']).tail = lineMark.tail ++ digits ++ [','] := rfl
  rw [parts]
  simp [front, middle]

/-- A mark that starts inside a name without marks cannot end in the mark behind the name. -/
theorem markAt?_append_of_unmarked (c : Char) (rest tail : Text)
    (unmarked : Unmarked (c :: rest)) : markAt? (c :: rest ++ ':' :: tail) = none := by
  apply Option.eq_none_iff_forall_ne_some.mpr
  rintro ⟨digits, message⟩ found
  obtain ⟨numeral, spelled⟩ := (markAt?_eq_some_iff _ digits message).mp found
  have aligned : c :: rest ++ ':' :: tail = (lineMark ++ digits ++ [',']) ++ message := by
    simpa using spelled
  rcases List.append_eq_append_iff.mp aligned with ⟨extra, mark, behind⟩ | ⟨extra, name, _⟩
  · cases extra with
    | nil =>
        apply unmarked [] digits [] numeral
        simpa using mark.symm
    | cons d extra =>
        have colon : ':' = d := (List.cons.inj behind).1
        apply colon_not_mem_mark digits numeral
        rw [mark, ← colon]
        simp
  · apply unmarked [] digits extra numeral
    simpa using name

theorem splitMark?_of_markAt? (text digits message : Text)
    (found : markAt? text = some (digits, message)) :
    splitMark? text = some ([], digits, message) := by
  cases text with
  | nil => cases found
  | cons c rest => simp only [splitMark?, found]

theorem splitMark?_append (file digits message : Text) (unmarked : Unmarked file)
    (numeral : Numeral digits) :
    splitMark? (file ++ (lineMark ++ digits ++ ',' :: message)) = some (file, digits, message) := by
  induction file with
  | nil =>
      apply splitMark?_of_markAt?
      exact (markAt?_eq_some_iff _ digits message).mpr ⟨numeral, rfl⟩
  | cons c rest ih =>
      have later : markAt? (c :: (rest ++ (lineMark ++ digits ++ ',' :: message))) = none :=
        markAt?_append_of_unmarked c rest _ unmarked
      rw [List.cons_append, splitMark?, later, ih unmarked.tail]

theorem lineFeed_not_mem_render (diagnostic : Diagnostic) (flatFile : '\n' ∉ diagnostic.file)
    (flatMessage : '\n' ∉ diagnostic.message) : '\n' ∉ diagnostic.render := by
  have digits : '\n' ∉ Text.ofNat diagnostic.line :=
    fun member => absurd ((numeral_ofNat diagnostic.line).2 '\n' member) (by decide)
  have mark : '\n' ∉ lineMark := by decide
  simp [render, flatFile, mark, digits, flatMessage]

theorem getLast?_render (diagnostic : Diagnostic) :
    diagnostic.render.getLast? = some (diagnostic.message.getLast?.getD ',') := by
  rw [render, List.getLast?_append, List.getLast?_cons, Option.some_or]

theorem not_isLineEnd_of_render (diagnostic : Diagnostic) (flatMessage : '\n' ∉ diagnostic.message)
    (ended : diagnostic.message.getLast? ≠ some '\r') :
    ∀ c ∈ diagnostic.render.getLast?, isLineEnd c = false := by
  intro c last
  rw [getLast?_render, Option.mem_some_iff] at last
  cases final : diagnostic.message.getLast? with
  | none =>
      rw [final] at last
      subst last
      decide
  | some d =>
      rw [final] at last
      subst last
      have feed : d ≠ '\n' := fun same => flatMessage (same ▸ List.mem_of_getLast? final)
      have ret : d ≠ '\r' := fun same => ended (same ▸ final)
      simp [isLineEnd, feed, ret]

theorem parse?_render (diagnostic : Diagnostic) (flatFile : '\n' ∉ diagnostic.file)
    (unmarked : Unmarked diagnostic.file) (bounded : diagnostic.line < Text.wordBound)
    (flatMessage : '\n' ∉ diagnostic.message) (ended : diagnostic.message.getLast? ≠ some '\r') :
    parse? diagnostic.render = some diagnostic := by
  have whole : Text.dropEndWhile isLineEnd diagnostic.render = diagnostic.render :=
    Text.dropEndWhile_eq_self isLineEnd _ (not_isLineEnd_of_render diagnostic flatMessage ended)
  have flat := lineFeed_not_mem_render diagnostic flatFile flatMessage
  have spelled : diagnostic.render = diagnostic.file ++
      (lineMark ++ Text.ofNat diagnostic.line ++ ',' :: diagnostic.message) := by
    simp [render]
  rw [parse?, whole]
  simp only [flat, if_false]
  rw [spelled, splitMark?_append diagnostic.file _ diagnostic.message unmarked (numeral_ofNat _)]
  simp only [Text.toWord?_ofNat diagnostic.line bounded, Option.map_some]

end Diagnostic

end WorkerLint
