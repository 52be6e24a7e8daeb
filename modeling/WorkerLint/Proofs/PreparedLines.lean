import WorkerLint.Script

namespace WorkerLint

namespace Text

theorem contains_append_lineFeed (needle text : Text) (filled : needle ≠ [])
    (flat : '\n' ∉ needle) : contains needle (text ++ ['\n']) = contains needle text := by
  rw [Bool.eq_iff_iff, contains_eq_true_iff, contains_eq_true_iff, List.infix_concat_iff,
    List.suffix_concat_iff]
  constructor
  · rintro ((rfl | ⟨front, rfl, _⟩) | inside)
    · exact absurd rfl filled
    · simp at flat
    · exact inside
  · exact Or.inr

theorem splitLines_eq_nil_iff (text : Text) : splitLines text = [] ↔ text = [] := by
  constructor
  · intro none
    rw [← flatten_splitLines text, none, List.flatten_nil]
  · rintro rfl
    rfl

end Text

namespace Script

theorem endLine_eq (line : Text) :
    endLine line = line ++ if line.getLast? ≠ some '\n' then ['\n'] else [] := by
  rw [endLine]
  split <;> simp_all

theorem contains_endLine (pragma : Text) (filled : pragma ≠ []) (flat : '\n' ∉ pragma)
    (line : Text) : Text.contains pragma (endLine line) = Text.contains pragma line := by
  rw [endLine]
  split
  · rfl
  · exact Text.contains_append_lineFeed pragma line filled flat

theorem length_endLastLine (lines : List Text) : (endLastLine lines).length = lines.length := by
  fun_induction endLastLine lines with
  | case1 => rfl
  | case2 line => rfl
  | case3 line rest _ ih => simp [ih]

theorem getElem?_endLastLine (lines : List Text) (index : Nat) :
    (endLastLine lines)[index]? =
      lines[index]?.map fun line => if index + 1 = lines.length then endLine line else line := by
  fun_induction endLastLine lines generalizing index with
  | case1 => rfl
  | case2 line => cases index <;> simp
  | case3 line rest more ih =>
      cases index with
      | zero =>
          simp only [List.getElem?_cons_zero, Option.map_some, Nat.zero_add, List.length_cons]
          rw [if_neg]
          simpa using more
      | succ index => simp [ih]

theorem pragma_flat (pragma : Text) (listed : pragma ∈ strictPragmas) :
    pragma ≠ [] ∧ '\n' ∉ pragma := by
  revert pragma
  decide

theorem isStrict_endLastLine (lines : List Text) :
    isStrict (endLastLine lines) = isStrict lines := by
  fun_induction endLastLine lines with
  | case1 => rfl
  | case2 line =>
      simp only [isStrict, List.any_cons, List.any_nil, Bool.or_false]
      rw [Bool.eq_iff_iff, List.any_eq_true, List.any_eq_true]
      apply exists_congr
      intro pragma
      apply and_congr_right
      intro listed
      obtain ⟨filled, flat⟩ := pragma_flat pragma listed
      rw [contains_endLine pragma filled flat line]
  | case3 line rest _ ih =>
      simp only [isStrict, List.any_cons] at ih ⊢
      rw [ih]

theorem isStrict_nil : isStrict [] = false := rfl

theorem scopeStrict_of_sloppy (lines : List Text) (sloppy : isStrict lines = false) :
    scopeStrict lines = lines := by
  simp [scopeStrict, sloppy]

theorem scopeStrict_of_strict (first : Text) (rest : List Text)
    (strict : isStrict (first :: rest) = true) :
    scopeStrict (first :: rest) = (scopeOpener ++ first) :: rest ++ [scopeCloser] := by
  rw [scopeStrict, if_pos strict]

theorem length_prepare (lines : List Text) :
    (prepare lines).length = lines.length + if isStrict lines then 1 else 0 := by
  rw [prepare, ← isStrict_endLastLine, ← length_endLastLine lines]
  cases strict : isStrict (endLastLine lines) with
  | false => simp [scopeStrict_of_sloppy _ strict]
  | true =>
      cases ended : endLastLine lines with
      | nil => simp [ended, isStrict_nil] at strict
      | cons first rest =>
          rw [ended] at strict
          simp [scopeStrict_of_strict first rest strict]

theorem prepare_eq_nil_iff (lines : List Text) : prepare lines = [] ↔ lines = [] := by
  constructor
  · intro vanished
    have none := congrArg List.length vanished
    rw [length_prepare, List.length_nil] at none
    exact List.length_eq_zero_iff.mp (by omega)
  · rintro rfl
    rfl

theorem prepared_length_pos (script : Script) (filled : script.lines ≠ []) :
    0 < script.prepared.length := by
  apply List.length_pos_iff.mpr
  intro vanished
  exact filled ((prepare_eq_nil_iff script.lines).mp vanished)

theorem endLastLine_line (lines : List Text) (index : Nat) (line : Text)
    (present : (endLastLine lines)[index]? = some line) :
    ∃ raw, lines[index]? = some raw ∧
      line = raw ++ if index + 1 = lines.length ∧ raw.getLast? ≠ some '\n' then ['\n'] else [] := by
  rw [getElem?_endLastLine] at present
  obtain ⟨raw, there, rfl⟩ := Option.map_eq_some_iff.mp present
  refine ⟨raw, there, ?_⟩
  by_cases last : index + 1 = lines.length
  · simp [last, endLine_eq]
  · simp [last]

theorem scopeStrict_line (lines : List Text) (index : Nat) (line : Text)
    (present : (scopeStrict lines)[index]? = some line) :
    (∃ raw, lines[index]? = some raw ∧
      line = (if index = 0 ∧ isStrict lines then scopeOpener else []) ++ raw) ∨
    (index = lines.length ∧ isStrict lines = true ∧ line = scopeCloser) := by
  cases strict : isStrict lines with
  | false =>
      rw [scopeStrict_of_sloppy lines strict] at present
      exact Or.inl ⟨line, present, by simp⟩
  | true =>
      cases lines with
      | nil => cases strict
      | cons first rest =>
          rw [scopeStrict_of_strict first rest strict] at present
          cases index with
          | zero =>
              left
              refine ⟨first, rfl, ?_⟩
              simpa using present.symm
          | succ index =>
              rw [List.cons_append, List.getElem?_cons_succ] at present
              by_cases inside : index < rest.length
              · left
                rw [List.getElem?_append_left inside] at present
                exact ⟨line, by simpa using present, by simp⟩
              · right
                rw [List.getElem?_append_right (by omega)] at present
                have bound := (List.getElem?_eq_some_iff.mp present).1
                simp only [List.length_singleton] at bound
                have last : index = rest.length := by omega
                simp only [last, Nat.sub_self, List.getElem?_cons_zero] at present
                exact ⟨by simp [last], rfl, by simpa using present.symm⟩

/-- A prepared line is the raw line of the same number, behind the opener if it is the first of a
strict script and before a line feed if it is the last and has none. Only a strict script has one
line more. -/
theorem prepare_line (lines : List Text) (index : Nat) (line : Text)
    (present : (prepare lines)[index]? = some line) :
    (∃ raw, lines[index]? = some raw ∧
      line = (if index = 0 ∧ isStrict lines then scopeOpener else []) ++ raw ++
        (if index + 1 = lines.length ∧ raw.getLast? ≠ some '\n' then ['\n'] else [])) ∨
    (index = lines.length ∧ isStrict lines = true ∧ line = scopeCloser) := by
  rcases scopeStrict_line (endLastLine lines) index line present with
    ⟨ended, there, rfl⟩ | ⟨last, strict, rfl⟩
  · obtain ⟨raw, below, rfl⟩ := endLastLine_line lines index ended there
    left
    refine ⟨raw, below, ?_⟩
    rw [isStrict_endLastLine, List.append_assoc]
  · rw [length_endLastLine] at last
    rw [isStrict_endLastLine] at strict
    exact Or.inr ⟨last, strict, rfl⟩

end Script

end WorkerLint
