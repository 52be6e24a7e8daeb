import WorkerLint.LineMap
import Mathlib.Tactic.ByContra

namespace WorkerLint

/-- Bisection finds the end of the initial stretch on which the predicate holds. -/
theorem bisect_spec (p : Nat → Bool) (low high : Nat) (ordered : low ≤ high)
    (initial : ∀ i j, i ≤ j → p j = true → p i = true) :
    low ≤ bisect p low high ∧ bisect p low high ≤ high ∧
      (∀ i, low ≤ i → i < bisect p low high → p i = true) ∧
      (∀ i, bisect p low high ≤ i → i < high → p i = false) := by
  fun_induction bisect p low high with
  | case1 low high below middle holds ih =>
      obtain ⟨lower, upper, before, behind⟩ := ih (by omega)
      refine ⟨by omega, upper, ?_, behind⟩
      intro i above inside
      by_cases near : i ≤ middle
      · exact initial i middle near holds
      · exact before i (by omega) inside
  | case2 low high below middle fails ih =>
      obtain ⟨lower, upper, before, behind⟩ := ih (by omega)
      refine ⟨lower, by omega, before, ?_⟩
      intro i beyond inside
      by_cases near : i < middle
      · exact behind i beyond near
      · by_contra holds
        exact fails (initial middle i (by omega) (by simpa using holds))
  | case3 low high done =>
      exact ⟨by omega, by omega, by omega, by omega⟩

namespace LineMap

def Increasing (map : LineMap) : Prop :=
  map.spans.Pairwise (·.start < ·.start)

theorem startsBy_eq_true_iff (map : LineMap) (line index : Nat) :
    map.startsBy line index = true ↔ ∃ span, map.spans[index]? = some span ∧ span.start ≤ line := by
  rw [startsBy]
  split <;> simp_all

theorem Increasing.start_lt {map : LineMap} (increasing : map.Increasing) {i j : Nat}
    {earlier later : Span} (before : i < j) (first : map.spans[i]? = some earlier)
    (second : map.spans[j]? = some later) : earlier.start < later.start := by
  obtain ⟨hi, rfl⟩ := List.getElem?_eq_some_iff.mp first
  obtain ⟨hj, rfl⟩ := List.getElem?_eq_some_iff.mp second
  exact List.pairwise_iff_getElem.mp increasing i j hi hj before

theorem Increasing.startsBy_initial {map : LineMap} (increasing : map.Increasing) (line : Nat)
    (i j : Nat) (before : i ≤ j) (later : map.startsBy line j = true) :
    map.startsBy line i = true := by
  rcases Nat.eq_or_lt_of_le before with rfl | before
  · exact later
  · obtain ⟨span, second, bound⟩ := (startsBy_eq_true_iff map line j).mp later
    have inside : i < map.spans.length :=
      Nat.lt_trans before (List.getElem?_eq_some_iff.mp second).1
    have first : map.spans[i]? = some map.spans[i] := List.getElem?_eq_getElem inside
    have order := increasing.start_lt before first second
    exact (startsBy_eq_true_iff map line i).mpr ⟨_, first, by omega⟩

theorem Increasing.bisect_startsBy {map : LineMap} (increasing : map.Increasing) (line : Nat) :
    let stop := bisect (map.startsBy line) 0 map.spans.length
    stop ≤ map.spans.length ∧
      (∀ i span, map.spans[i]? = some span → (span.start ≤ line ↔ i < stop)) := by
  intro stop
  obtain ⟨_, upper, before, behind⟩ := bisect_spec (map.startsBy line) 0 map.spans.length
    (Nat.zero_le _) (increasing.startsBy_initial line)
  refine ⟨upper, ?_⟩
  intro i span present
  constructor
  · intro bound
    by_contra beyond
    have inside := (List.getElem?_eq_some_iff.mp present).1
    have fails := behind i (by omega) inside
    have holds := (startsBy_eq_true_iff map line i).mpr ⟨span, present, bound⟩
    rw [fails] at holds
    cases holds
  · intro inside
    obtain ⟨other, same, bound⟩ :=
      (startsBy_eq_true_iff map line i).mp (before i (Nat.zero_le _) inside)
    rw [present] at same
    cases same
    exact bound

theorem Increasing.spanAt?_eq_some_iff {map : LineMap} (increasing : map.Increasing)
    (line : Nat) (span : Span) :
    map.spanAt? line = some span ↔
      ∃ index, map.spans[index]? = some span ∧ span.start ≤ line ∧
        ∀ next, map.spans[index + 1]? = some next → line < next.start := by
  obtain ⟨upper, parts⟩ := increasing.bisect_startsBy line
  rw [spanAt?]
  cases stop : bisect (map.startsBy line) 0 map.spans.length with
  | zero =>
      rw [stop] at parts
      simp only [reduceCtorEq, false_iff, not_exists, not_and]
      intro index present bound
      exact absurd ((parts index span present).mp bound) (Nat.not_lt_zero index)
  | succ last =>
      rw [stop] at parts
      constructor
      · intro found
        refine ⟨last, found, (parts last span found).mpr (Nat.lt_succ_self last), ?_⟩
        intro next present
        by_contra early
        exact absurd ((parts (last + 1) next present).mp (by omega)) (Nat.lt_irrefl _)
      · rintro ⟨index, present, bound, apart⟩
        have inside := (parts index span present).mp bound
        rcases Nat.eq_or_lt_of_le (Nat.le_of_lt_succ inside) with rfl | below
        · exact present
        · -- A later span would start by the line too, so the successor would as well.
          have room : index + 1 < map.spans.length := by omega
          have present' : map.spans[index + 1]? = some map.spans[index + 1] :=
            List.getElem?_eq_getElem room
          have early := (parts (index + 1) _ present').mpr (by omega)
          exact absurd (apart _ present') (by omega)

theorem Increasing.spanAt?_eq_none_iff {map : LineMap} (increasing : map.Increasing)
    (line : Nat) : map.spanAt? line = none ↔ ∀ span ∈ map.spans, line < span.start := by
  obtain ⟨upper, parts⟩ := increasing.bisect_startsBy line
  rw [spanAt?]
  cases stop : bisect (map.startsBy line) 0 map.spans.length with
  | zero =>
      rw [stop] at parts
      simp only [true_iff]
      intro span member
      obtain ⟨index, present⟩ := List.mem_iff_getElem?.mp member
      by_contra early
      exact absurd ((parts index span present).mp (by omega)) (Nat.not_lt_zero index)
  | succ last =>
      rw [stop] at parts upper
      have present : map.spans[last]? = some map.spans[last] := List.getElem?_eq_getElem upper
      have early := (parts last _ present).mpr (Nat.lt_succ_self last)
      constructor
      · intro missing
        change map.spans[last]? = none at missing
        rw [present] at missing
        cases missing
      · intro late
        exact absurd (late _ (List.mem_of_getElem? present)) (by omega)

end LineMap

end WorkerLint
