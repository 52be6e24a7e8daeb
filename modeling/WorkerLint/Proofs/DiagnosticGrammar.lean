import WorkerLint.Proofs.DiagnosticMarks
import WorkerLint.Proofs.Trimming

namespace WorkerLint

theorem Text.toWord?_eq_some_iff (digits : Text) (n : Nat) :
    toWord? digits = some n ↔
      digits ≠ [] ∧ (∀ c ∈ digits, c.isDigit = true) ∧ digitsValue digits = n ∧ n < wordBound := by
  rw [toWord?, Option.ite_none_right_eq_some, Option.some_inj, List.all_eq_true]
  constructor
  · rintro ⟨⟨filled, ascii, bounded⟩, rfl⟩
    exact ⟨filled, ascii, rfl, bounded⟩
  · rintro ⟨filled, ascii, rfl, bounded⟩
    exact ⟨⟨filled, ascii, bounded⟩, rfl⟩

namespace Diagnostic

structure LeftmostMark (text file digits message : Text) : Prop where
  numeral : Numeral digits
  spelled : text = file ++ lineMark ++ digits ++ ',' :: message
  leftmost : ∀ before other after, Numeral other →
    text = before ++ lineMark ++ other ++ ',' :: after → file.length ≤ before.length

theorem LeftmostMark.unmarked {text file digits message : Text}
    (mark : LeftmostMark text file digits message) : Unmarked file := by
  rintro before other after numeral rfl
  have earlier := mark.leftmost before other (after ++ lineMark ++ digits ++ ',' :: message) numeral
    (by simp [mark.spelled])
  simp only [List.length_append, List.length_cons] at earlier
  omega

/-- With a character in front that starts no mark, the leftmost mark stays the leftmost. -/
theorem LeftmostMark.behind {text file digits message : Text}
    (mark : LeftmostMark text file digits message) (c : Char) (none : markAt? (c :: text) = none) :
    LeftmostMark (c :: text) (c :: file) digits message := by
  refine ⟨mark.numeral, by simp [mark.spelled], ?_⟩
  intro before other after numeral spelled
  cases before with
  | nil =>
      rw [(markAt?_eq_some_iff _ other after).mpr ⟨numeral, spelled⟩] at none
      cases none
  | cons d before =>
      exact Nat.succ_le_succ (mark.leftmost before other after numeral (List.cons.inj spelled).2)

theorem leftmostMark_of_splitMark? (text file digits message : Text)
    (found : splitMark? text = some (file, digits, message)) :
    LeftmostMark text file digits message := by
  induction text generalizing file with
  | nil => cases found
  | cons c rest ih =>
      rw [splitMark?] at found
      cases here : markAt? (c :: rest) with
      | some mark =>
          simp only [here, Option.some.injEq, Prod.mk.injEq] at found
          obtain ⟨rfl, rfl, rfl⟩ := found
          obtain ⟨numeral, spelled⟩ := (markAt?_eq_some_iff _ mark.1 mark.2).mp here
          exact ⟨numeral, spelled, fun _ _ _ _ _ => Nat.zero_le _⟩
      | none =>
          cases below : splitMark? rest with
          | none => simp [here, below] at found
          | some mark =>
              simp only [here, below, Option.some.injEq, Prod.mk.injEq] at found
              obtain ⟨rfl, rfl, rfl⟩ := found
              exact (ih mark.1 below).behind c here

theorem splitMark?_eq_some_iff (text file digits message : Text) :
    splitMark? text = some (file, digits, message) ↔ LeftmostMark text file digits message := by
  refine ⟨leftmostMark_of_splitMark? text file digits message, ?_⟩
  intro mark
  rw [mark.spelled, List.append_assoc, List.append_assoc, ← List.append_assoc lineMark]
  exact splitMark?_append file digits message mark.unmarked mark.numeral

theorem unmarked_cons_iff (c : Char) (rest : Text) :
    Unmarked (c :: rest) ↔ markAt? (c :: rest) = none ∧ Unmarked rest := by
  constructor
  · intro unmarked
    refine ⟨?_, unmarked.tail⟩
    apply Option.eq_none_iff_forall_ne_some.mpr
    rintro ⟨digits, message⟩ found
    obtain ⟨numeral, spelled⟩ := (markAt?_eq_some_iff _ digits message).mp found
    exact unmarked [] digits message numeral spelled
  · rintro ⟨none, below⟩ before digits after numeral spelled
    cases before with
    | nil =>
        rw [(markAt?_eq_some_iff _ digits after).mpr ⟨numeral, spelled⟩] at none
        cases none
    | cons d before => exact below before digits after numeral (List.cons.inj spelled).2

theorem splitMark?_eq_none_iff (text : Text) : splitMark? text = none ↔ Unmarked text := by
  induction text with
  | nil => exact ⟨fun _ => unmarked_of_no_colon [] (by simp), fun _ => rfl⟩
  | cons c rest ih =>
      rw [splitMark?, unmarked_cons_iff, ← ih]
      cases markAt? (c :: rest) with
      | some mark => simp
      | none => cases splitMark? rest <;> simp

theorem parse?_eq_some_iff (raw : Text) (found : Diagnostic) :
    parse? raw = some found ↔
      '\n' ∉ Text.dropEndWhile isLineEnd raw ∧
      ∃ digits, LeftmostMark (Text.dropEndWhile isLineEnd raw) found.file digits found.message ∧
        Text.toWord? digits = some found.line := by
  rw [parse?]
  by_cases broken : '\n' ∈ Text.dropEndWhile isLineEnd raw
  · simp [broken]
  · simp only [broken, if_false, not_false_eq_true, true_and]
    constructor
    · intro read
      split at read
      · cases read
      · rename_i file digits message split
        obtain ⟨line, number, rfl⟩ := Option.map_eq_some_iff.mp read
        exact ⟨digits, (splitMark?_eq_some_iff _ _ _ _).mp split, number⟩
    · rintro ⟨digits, mark, number⟩
      rw [(splitMark?_eq_some_iff _ _ _ _).mpr mark]
      simp only [number, Option.map_some]

theorem parse?_eq_none_iff (raw : Text) :
    parse? raw = none ↔
      '\n' ∈ Text.dropEndWhile isLineEnd raw ∨ Unmarked (Text.dropEndWhile isLineEnd raw) ∨
      ∃ file digits message, LeftmostMark (Text.dropEndWhile isLineEnd raw) file digits message ∧
        Text.toWord? digits = none := by
  rw [parse?]
  by_cases broken : '\n' ∈ Text.dropEndWhile isLineEnd raw
  · simp [broken]
  · simp only [broken, if_false, false_or]
    cases split : splitMark? (Text.dropEndWhile isLineEnd raw) with
    | none => simp [(splitMark?_eq_none_iff _).mp split]
    | some mark =>
        obtain ⟨file, digits, message⟩ := mark
        have marked : ¬ Unmarked (Text.dropEndWhile isLineEnd raw) := by
          rw [← splitMark?_eq_none_iff, split]
          simp
        simp only [marked, false_or, Option.map_eq_none_iff, ← splitMark?_eq_some_iff, split,
          Option.some.injEq, Prod.mk.injEq]
        constructor
        · intro unread
          exact ⟨file, digits, message, ⟨rfl, rfl, rfl⟩, unread⟩
        · rintro ⟨_, _, _, ⟨rfl, rfl, rfl⟩, unread⟩
          exact unread

theorem toWord?_eq_none_iff (digits : Text) (numeral : Numeral digits) :
    Text.toWord? digits = none ↔
      (∃ c ∈ digits, c.isDigit = false) ∨ Text.wordBound ≤ Text.digitsValue digits := by
  rw [Text.toWord?, ite_eq_right_iff]
  simp only [reduceCtorEq, imp_false, not_and, not_lt, List.all_eq_true]
  constructor
  · intro refused
    by_cases ascii : ∀ c ∈ digits, c.isDigit = true
    · exact Or.inr (refused numeral.1 ascii)
    · left
      simpa using ascii
  · rintro (⟨c, member, foreign⟩ | large) _ ascii
    · rw [ascii c member] at foreign
      cases foreign
    · exact large

/-- A line of output, without the line ends behind it, is a diagnostic exactly if it has no inner
line feed and the digits of its leftmost mark are ASCII digits of a number below the bound. The
file and the message are what stands before and behind that mark. Every other line is none, also
where a mark further right has such a number. -/
theorem parse?_grammar (raw : Text) :
    let text := Text.dropEndWhile isLineEnd raw
    Text.TrimmedEnd isLineEnd raw text ∧
    (∀ file line message, parse? raw = some ⟨file, line, message⟩ ↔
      '\n' ∉ text ∧ ∃ digits, LeftmostMark text file digits message ∧
        (∀ c ∈ digits, c.isDigit = true) ∧ Text.digitsValue digits = line ∧
        line < Text.wordBound) ∧
    (parse? raw = none ↔ '\n' ∈ text ∨ Unmarked text ∨
      ∃ file digits message, LeftmostMark text file digits message ∧
        ((∃ c ∈ digits, c.isDigit = false) ∨ Text.wordBound ≤ Text.digitsValue digits)) := by
  intro text
  refine ⟨(Text.trimmedEnd_iff isLineEnd raw text).mpr rfl, ?_, ?_⟩
  · intro file line message
    rw [parse?_eq_some_iff]
    refine and_congr_right fun _ => exists_congr fun digits => and_congr_right fun mark => ?_
    rw [Text.toWord?_eq_some_iff]
    exact and_iff_right mark.numeral.1
  · rw [parse?_eq_none_iff]
    refine or_congr_right (or_congr_right ?_)
    refine exists_congr fun file => exists_congr fun digits => exists_congr fun message => ?_
    exact and_congr_right fun mark => toWord?_eq_none_iff digits mark.numeral

theorem parse?_grammar_sample :
    parse? "a.js: line \u0663,b.js: line 4,c\r\n".toList = none ∧
    parse? "a: line 1: line 007,b: line 8,c\n\r".toList =
      some ⟨"a: line 1".toList, 7, "b: line 8,c".toList⟩ := by
  constructor
  · obtain ⟨_, _, refused⟩ := parse?_grammar "a.js: line \u0663,b.js: line 4,c\r\n".toList
    refine refused.mpr (Or.inr (Or.inr ?_))
    refine ⟨"a.js".toList, "\u0663".toList, "b.js: line 4,c".toList, ?_, Or.inl ?_⟩
    · exact (splitMark?_eq_some_iff _ _ _ _).mp (by decide)
    · exact ⟨'\u0663', by decide, by decide⟩
  · obtain ⟨_, accepted, _⟩ := parse?_grammar "a: line 1: line 007,b: line 8,c\n\r".toList
    refine (accepted _ _ _).mpr ⟨by decide, "007".toList, ?_, ?_, by decide, by decide⟩
    · exact (splitMark?_eq_some_iff _ _ _ _).mp (by decide)
    · exact List.all_eq_true.mp (by decide)

end Diagnostic

end WorkerLint
