import WorkerLint.Proofs.DirectiveGrammar
import Mathlib.Data.List.Induction
import Mathlib.Data.List.Infix
import Mathlib.Data.List.Perm.Basic

namespace WorkerLint.Directive

/-- The names of a list in the order in which they first occur, each once. -/
structure FirstOccurrences (written found : List Text) : Prop where
  single : found.Nodup
  same : ∀ name, name ∈ found ↔ name ∈ written
  ordered : found.Pairwise fun name later => written.idxOf name < written.idxOf later

/-- The fault of the first part, or else that of the second, or else what `join` makes of both. -/
def settled (join : List Text → List Text → List Text) :
    Except Fault (List Text) → Except Fault (List Text) → Except Fault (List Text)
  | .error fault, _ => .error fault
  | .ok _, .error fault => .error fault
  | .ok names, .ok more => .ok (join names more)

def mentioning (lines : List Text) : List Text :=
  lines.filter fun line => token <:+: line

def FirstRefused (lines : List Text) (line : Text) (fault : Fault) : Prop :=
  ∃ before after, lines = before ++ line :: after ∧ token <:+: line ∧
    imports line = .error fault ∧
    ∀ earlier ∈ before, token <:+: earlier → ∃ names, imports earlier = .ok names

theorem mentioning_eq (lines : List Text) : mentioning lines = lines.filter mentions := by
  apply List.filter_congr
  intro line _
  rw [Bool.eq_iff_iff, decide_eq_true_iff, mentions_eq_true_iff]

theorem mem_distinct (names : List Text) (name : Text) : name ∈ distinct names ↔ name ∈ names :=
  List.mem_eraseDups

theorem distinct_concat (front : List Text) (name : Text) :
    distinct (front ++ [name]) =
      if name ∈ front then distinct front else distinct front ++ [name] := by
  rw [distinct, List.eraseDups_append]
  by_cases known : name ∈ front
  · have none : [name].removeAll front = [] := by simp [List.removeAll, known]
    rw [none, List.eraseDups_nil, List.append_nil, if_pos known, distinct]
  · have fresh : [name].removeAll front = [name] := by simp [List.removeAll, known]
    rw [fresh, if_neg known, distinct]
    rfl

theorem distinct_ordered (written : List Text) :
    (distinct written).Pairwise fun name later => written.idxOf name < written.idxOf later := by
  -- from the end: one more name does not move the first occurrence of those before it
  induction written using List.reverseRecOn with
  | nil => exact List.Pairwise.nil
  | append_singleton front last ih =>
      have earlier : (distinct front).Pairwise fun name later =>
          (front ++ [last]).idxOf name < (front ++ [last]).idxOf later := by
        apply ih.imp_of_mem
        intro name later member member' before
        rw [mem_distinct] at member member'
        rw [List.idxOf_append_of_mem member, List.idxOf_append_of_mem member']
        exact before
      rw [distinct_concat]
      split
      · exact earlier
      · rename_i fresh
        refine List.pairwise_append.mpr ⟨earlier, List.pairwise_singleton _ _, ?_⟩
        intro name member other here
        rw [List.mem_singleton.mp here]
        have known : name ∈ front := (mem_distinct front name).mp member
        have inside : front.idxOf name < front.length := List.idxOf_lt_length_of_mem known
        rw [List.idxOf_append_of_mem known, List.idxOf_append, if_neg fresh]
        omega

theorem firstOccurrences_distinct (written : List Text) :
    FirstOccurrences written (distinct written) := by
  have ordered := distinct_ordered written
  refine ⟨ordered.imp ?_, mem_distinct written, ordered⟩
  rintro name _ before rfl
  exact Nat.lt_irrefl _ before

theorem firstOccurrences_iff (written found : List Text) :
    FirstOccurrences written found ↔ distinct written = found := by
  constructor
  · intro first
    have own := firstOccurrences_distinct written
    have alike : (distinct written).Perm found := by
      apply (List.perm_ext_iff_of_nodup own.single first.single).mpr
      intro name
      rw [own.same, first.same]
    refine List.Perm.eq_of_pairwise ?_ own.ordered first.ordered alike
    intro name other _ _ before behind
    exact absurd before (Nat.lt_asymm behind)
  · rintro rfl
    exact firstOccurrences_distinct written

theorem distinct_append_congr (front front' more : List Text)
    (same : distinct front = distinct front') :
    distinct (front ++ more) = distinct (front' ++ more) := by
  have members : ∀ name, name ∈ front ↔ name ∈ front' := by
    intro name
    rw [← mem_distinct front, ← mem_distinct front', same]
  induction more using List.reverseRecOn with
  | nil => simpa using same
  | append_singleton more name ih =>
      rw [← List.append_assoc, ← List.append_assoc, distinct_concat, distinct_concat, ih]
      simp only [List.mem_append, members]

theorem distinct_append_distinct (front more : List Text) :
    distinct (front ++ distinct more) = distinct (front ++ more) := by
  induction more using List.reverseRecOn with
  | nil => rfl
  | append_singleton more name ih =>
      by_cases known : name ∈ more
      · have kept : distinct (front ++ (more ++ [name])) = distinct (front ++ more) := by
          rw [← List.append_assoc, distinct_concat, if_pos (List.mem_append_right front known)]
        rw [distinct_concat, if_pos known, ih, kept]
      · rw [distinct_concat, if_neg known, ← List.append_assoc, ← List.append_assoc,
          distinct_concat, distinct_concat, ih]
        simp only [List.mem_append, mem_distinct]

theorem distinct_distinct (names : List Text) : distinct (distinct names) = distinct names :=
  distinct_append_distinct [] names

theorem distinct_append (front more : List Text) :
    distinct (distinct front ++ distinct more) = distinct (front ++ more) := by
  rw [distinct_append_distinct]
  exact distinct_append_congr _ _ more (distinct_distinct front)

theorem allImports_cons_of_mentioned (line : Text) (rest : List Text)
    (mentioned : token <:+: line) :
    allImports (line :: rest) = settled (· ++ ·) (imports line) (allImports rest) := by
  rw [allImports, if_pos ((mentions_eq_true_iff line).mpr mentioned)]
  cases imports line with
  | error fault => rfl
  | ok names => cases allImports rest <;> rfl

theorem allImports_cons_of_unmentioned (line : Text) (rest : List Text)
    (unmentioned : ¬ token <:+: line) : allImports (line :: rest) = allImports rest := by
  rw [allImports, if_neg (by rwa [mentions_eq_true_iff])]

theorem settled_assoc (first second third : Except Fault (List Text)) :
    settled (· ++ ·) (settled (· ++ ·) first second) third =
      settled (· ++ ·) first (settled (· ++ ·) second third) := by
  cases first <;> cases second <;> cases third <;> simp [settled]

theorem allImports_append (front back : List Text) :
    allImports (front ++ back) = settled (· ++ ·) (allImports front) (allImports back) := by
  induction front with
  | nil =>
      rw [List.nil_append]
      cases allImports back <;> rfl
  | cons line front ih =>
      rw [List.cons_append]
      by_cases mentioned : token <:+: line
      · rw [allImports_cons_of_mentioned line _ mentioned,
          allImports_cons_of_mentioned line _ mentioned, ih, settled_assoc]
      · rw [allImports_cons_of_unmentioned line _ mentioned,
          allImports_cons_of_unmentioned line _ mentioned, ih]

theorem allImports_mentioning (lines : List Text) :
    allImports (mentioning lines) = allImports lines := by
  induction lines with
  | nil => rfl
  | cons line rest ih =>
      rw [mentioning] at ih ⊢
      by_cases mentioned : token <:+: line
      · rw [List.filter_cons_of_pos (by simpa using mentioned),
          allImports_cons_of_mentioned line _ mentioned,
          allImports_cons_of_mentioned line _ mentioned, ih]
      · rw [List.filter_cons_of_neg (by simpa using mentioned), ih,
          allImports_cons_of_unmentioned line _ mentioned]

theorem allImports_eq_ok_iff (lines found : List Text)
    (mentioned : ∀ line ∈ lines, token <:+: line) :
    allImports lines = .ok found ↔
      ∃ lists : List (List Text), lines.map imports = lists.map .ok ∧ lists.flatten = found := by
  induction lines generalizing found with
  | nil =>
      constructor
      · rintro ⟨⟩
        exact ⟨[], rfl, rfl⟩
      · rintro ⟨lists, each, rfl⟩
        rw [List.map_eq_nil_iff.mp each.symm]
        rfl
  | cons line rest ih =>
      rw [allImports_cons_of_mentioned line rest (mentioned line List.mem_cons_self)]
      have below := fun names => ih names fun other member =>
        mentioned other (List.mem_cons_of_mem line member)
      constructor
      · intro read
        cases own : imports line with
        | error fault => simp [own, settled] at read
        | ok names =>
            cases others : allImports rest with
            | error fault => simp [own, others, settled] at read
            | ok more =>
                simp only [own, others, settled, Except.ok.injEq] at read
                obtain ⟨lists, each, whole⟩ := (below more).mp others
                exact ⟨names :: lists, by simp [own, each], by simp [whole, read]⟩
      · rintro ⟨lists, each, rfl⟩
        cases lists with
        | nil => simp at each
        | cons names lists =>
            obtain ⟨own, each⟩ := List.cons.inj each
            rw [own, (below lists.flatten).mpr ⟨lists, each, rfl⟩]
            rfl

theorem firstRefused_cons_iff (line : Text) (rest : List Text) (bad : Text) (fault : Fault) :
    FirstRefused (line :: rest) bad fault ↔
      (bad = line ∧ token <:+: line ∧ imports line = .error fault) ∨
      ((token <:+: line → ∃ names, imports line = .ok names) ∧ FirstRefused rest bad fault) := by
  constructor
  · rintro ⟨before, after, spelled, mentioned, refused, formed⟩
    cases before with
    | nil =>
        obtain ⟨rfl, _⟩ := List.cons.inj spelled
        exact Or.inl ⟨rfl, mentioned, refused⟩
    | cons earlier before =>
        obtain ⟨rfl, whole⟩ := List.cons.inj spelled
        refine Or.inr ⟨formed _ List.mem_cons_self, before, after, whole, mentioned, refused, ?_⟩
        exact fun other member => formed other (List.mem_cons_of_mem _ member)
  · rintro (⟨rfl, mentioned, refused⟩ |
      ⟨read, before, after, rfl, mentioned, refused, formed⟩)
    · exact ⟨[], rest, rfl, mentioned, refused, by simp⟩
    · refine ⟨line :: before, after, rfl, mentioned, refused, ?_⟩
      intro earlier member
      rcases List.mem_cons.mp member with rfl | member
      · exact read
      · exact formed earlier member

theorem allImports_eq_error_iff (lines : List Text) (fault : Fault) :
    allImports lines = .error fault ↔ ∃ line, FirstRefused lines line fault := by
  induction lines with
  | nil => simp [allImports, FirstRefused]
  | cons line rest ih =>
      simp only [firstRefused_cons_iff]
      by_cases mentioned : token <:+: line
      · rw [allImports_cons_of_mentioned line rest mentioned]
        cases own : imports line with
        | error cause => simp [settled, mentioned]
        | ok names =>
            cases others : allImports rest with
            | error cause => simp [settled, mentioned, ← ih, others]
            | ok more => simp [settled, mentioned, ← ih, others]
      · rw [allImports_cons_of_unmentioned line rest mentioned, ih]
        simp [mentioned]

theorem collect_append (front back : List Text) :
    collect (front ++ back) =
      settled (fun names more => distinct (names ++ more)) (collect front) (collect back) := by
  simp only [collect, allImports_append]
  cases allImports front with
  | error fault => rfl
  | ok names =>
      cases allImports back with
      | error fault => rfl
      | ok more => exact congrArg Except.ok (distinct_append names more).symm

theorem collect_mentioning (lines : List Text) : collect (mentioning lines) = collect lines := by
  rw [collect, allImports_mentioning, collect]

theorem collect_eq_ok_iff (lines found : List Text) :
    collect lines = .ok found ↔
      ∃ lists : List (List Text), (mentioning lines).map imports = lists.map .ok ∧
        FirstOccurrences lists.flatten found := by
  have mentioned : ∀ line ∈ mentioning lines, token <:+: line := by
    intro line member
    simpa using (List.mem_filter.mp member).2
  have read := fun names => allImports_eq_ok_iff (mentioning lines) names mentioned
  rw [← collect_mentioning, collect]
  constructor
  · intro value
    cases all : allImports (mentioning lines) with
    | error fault => simp [all] at value
    | ok names =>
        simp only [all, Except.ok.injEq] at value
        obtain ⟨lists, each, rfl⟩ := (read names).mp all
        exact ⟨lists, each, (firstOccurrences_iff _ found).mpr value⟩
  · rintro ⟨lists, each, first⟩
    rw [(read lists.flatten).mpr ⟨lists, each, rfl⟩, ← (firstOccurrences_iff _ found).mp first]

theorem fault_of_imports (line : Text) (fault : Fault) (refused : imports line = .error fault) :
    fault = .malformed (Text.trimEnd line) := by
  rw [imports] at refused
  split at refused
  · cases refused
  · exact (Except.error.inj refused).symm

theorem collect_eq_error_iff (lines : List Text) (fault : Fault) :
    collect lines = .error fault ↔
      ∃ line, FirstRefused lines line fault ∧ fault = .malformed (Text.trimEnd line) := by
  have cause : collect lines = .error fault ↔ allImports lines = .error fault := by
    rw [collect]
    cases allImports lines <;> simp
  rw [cause, allImports_eq_error_iff]
  refine exists_congr fun line => (and_iff_left_of_imp ?_).symm
  rintro ⟨_, _, _, _, refused, _⟩
  exact fault_of_imports line fault refused

/-- The imports of two parts of a script come to the first fault among them or to the names of both
parts, each once. A script has the names that the lines with the directive give, in the order of
their first occurrence, or the fault of the first such line that cannot be read, and lines without
the directive make no difference, wherever they stand. -/
theorem collect_composes :
    (∀ front back, collect (front ++ back) =
      settled (fun names more => distinct (names ++ more)) (collect front) (collect back)) ∧
    (∀ lines found, collect lines = .ok found ↔
      ∃ lists : List (List Text), (mentioning lines).map imports = lists.map .ok ∧
        FirstOccurrences lists.flatten found) ∧
    (∀ lines fault, collect lines = .error fault ↔
      ∃ line, FirstRefused lines line fault ∧ fault = .malformed (Text.trimEnd line)) ∧
    (∀ lines lines', mentioning lines = mentioning lines' → collect lines = collect lines') := by
  refine ⟨collect_append, collect_eq_ok_iff, collect_eq_error_iff, ?_⟩
  intro lines lines' same
  rw [← collect_mentioning lines, same, collect_mentioning lines']

theorem collect_composes_sample :
    let front := ["importScripts('b.js', 'a.js');\n".toList]
    let back := ["importScripts('a.js', 'c.js', 'a.js');\n".toList]
    let idle := ["import Scripts('d.js');\n".toList]
    let bad := ["importScripts 'e.js';\n".toList, "importScripts(\n".toList]
    collect (front ++ idle ++ back) = .ok ["b.js".toList, "a.js".toList, "c.js".toList] ∧
      collect (back ++ bad ++ front) = .error (.malformed "importScripts 'e.js';".toList) := by
  intro front back idle bad
  obtain ⟨parts, _, refused, inserted⟩ := collect_composes
  have kept : mentioning (front ++ idle ++ back) = mentioning (front ++ back) := by
    rw [mentioning_eq, mentioning_eq]
    decide
  have first : collect front = .ok ["b.js".toList, "a.js".toList] := by decide
  have second : collect back = .ok ["a.js".toList, "c.js".toList] := by decide
  refine ⟨?_, (refused _ _).mpr ⟨"importScripts 'e.js';\n".toList, ⟨back, ?_⟩, by decide⟩⟩
  · rw [inserted _ _ kept, parts, first, second]
    decide
  · refine ⟨"importScripts(\n".toList :: front, rfl, ?_, by decide, ?_⟩
    · exact (mentions_eq_true_iff _).mp (by decide)
    intro earlier member _
    rw [List.mem_singleton.mp member]
    exact ⟨["a.js".toList, "c.js".toList, "a.js".toList], by decide⟩

end WorkerLint.Directive
