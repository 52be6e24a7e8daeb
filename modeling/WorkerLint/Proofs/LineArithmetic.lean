import WorkerLint.Proofs.BundleLayout
import WorkerLint.Proofs.LineLookup

namespace WorkerLint

theorem bisect_congr (p q : Nat → Bool) (low high : Nat)
    (alike : ∀ i, low ≤ i → i < high → p i = q i) : bisect p low high = bisect q low high := by
  fun_induction bisect p low high with
  | case1 low high below middle holds ih =>
      have asked : q middle = true := by
        rw [← alike middle (by omega) (by omega)]
        exact holds
      have found := ih fun i above inside => alike i (by omega) inside
      rw [found]
      symm
      rw [bisect, if_pos below]
      exact if_pos asked
  | case2 low high below middle fails ih =>
      have asked : ¬ q middle = true := by
        rw [← alike middle (by omega) (by omega)]
        exact fails
      have found := ih fun i above inside => alike i above (by omega)
      rw [found]
      symm
      rw [bisect, if_pos below]
      exact if_neg asked
  | case3 low high done =>
      rw [bisect, if_neg done]

structure WordSpan where
  start : UInt64
  file : Path
  origin : UInt64

def Span.toWords (span : Span) : WordSpan :=
  ⟨.ofNat span.start, span.file, .ofNat span.origin⟩

namespace WordSpan

def spansFrom : UInt64 → List Script → List WordSpan
  | _, [] => []
  | start, script :: rest =>
    ⟨start, script.path, 1⟩ :: spansFrom (start + .ofNat script.prepared.length) rest

def startsBy (spans : List WordSpan) (line : UInt64) (index : Nat) : Bool :=
  match spans[index]? with
  | some span => span.start ≤ line
  | none => false

def source? (spans : List WordSpan) (line : UInt64) : Option (Path × UInt64) :=
  match bisect (startsBy spans line) 0 spans.length with
  | 0 => none
  | index + 1 => spans[index]?.map fun span => (span.file, line - span.start + span.origin)

theorem spansFrom_ofNat (start : Nat) (scripts : List Script) :
    spansFrom (.ofNat start) scripts = (Bundle.spansFrom start scripts).map Span.toWords := by
  induction scripts generalizing start with
  | nil => rfl
  | cons script rest ih =>
      have next : UInt64.ofNat start + .ofNat script.prepared.length =
          .ofNat (start + script.prepared.length) := (UInt64.ofNat_add _ _).symm
      rw [spansFrom, next, ih]
      rfl

theorem startsBy_toWords (map : LineMap) (fits : ∀ span ∈ map.spans, span.start < Text.wordBound)
    (line : UInt64) (index : Nat) :
    startsBy (map.spans.map Span.toWords) line index = map.startsBy line.toNat index := by
  rw [startsBy, LineMap.startsBy, List.getElem?_map]
  cases present : map.spans[index]? with
  | none => rfl
  | some span =>
      have small := fits span (List.mem_of_getElem? present)
      rw [Text.wordBound] at small
      have kept : (UInt64.ofNat span.start).toNat = span.start := by
        rw [UInt64.toNat_ofNat']
        omega
      simp [Span.toWords, UInt64.le_iff_toNat_le, kept]

theorem toNat_line (line : UInt64) (start origin : Nat) (lower : start ≤ line.toNat)
    (fits : line.toNat - start + origin < Text.wordBound) :
    (line - .ofNat start + .ofNat origin).toNat = line.toNat - start + origin := by
  have bound := line.toNat_lt
  rw [Text.wordBound] at fits
  rw [UInt64.toNat_add, UInt64.toNat_sub, UInt64.toNat_ofNat', UInt64.toNat_ofNat']
  omega

theorem source?_toWords (map : LineMap) (line : UInt64)
    (fits : ∀ span ∈ map.spans, span.start < Text.wordBound)
    (range : ∀ span, map.spanAt? line.toNat = some span →
      span.start ≤ line.toNat ∧ line.toNat - span.start + span.origin < Text.wordBound) :
    (source? (map.spans.map Span.toWords) line).map (fun (file, number) => (file, number.toNat)) =
      map.source? line.toNat := by
  have stops : bisect (startsBy (map.spans.map Span.toWords) line) 0
      (map.spans.map Span.toWords).length =
      bisect (map.startsBy line.toNat) 0 map.spans.length := by
    rw [List.length_map]
    exact bisect_congr _ _ _ _ fun i _ _ => startsBy_toWords map fits line i
  rw [source?, stops, LineMap.source?]
  cases stop : bisect (map.startsBy line.toNat) 0 map.spans.length with
  | zero => simp [LineMap.spanAt?, stop]
  | succ index =>
      have read : map.spanAt? line.toNat = map.spans[index]? := by rw [LineMap.spanAt?, stop]
      rw [read]
      simp only [List.getElem?_map]
      cases present : map.spans[index]? with
      | none => rfl
      | some span =>
          obtain ⟨lower, small⟩ := range span (read.trans present)
          have number := toNat_line line span.start span.origin lower small
          simp [Span.toWords, number]

end WordSpan

namespace LineMap

def scan? (map : LineMap) (line : Nat) : Option Span :=
  (map.spans.filter fun span => span.start ≤ line).getLast?

/-- The index that bisection ends at: the number of spans that it finds to start by the line. -/
def stopFor (map : LineMap) (line : Nat) : Nat :=
  bisect (map.startsBy line) 0 map.spans.length

theorem Increasing.filter_startsBy {map : LineMap} (increasing : map.Increasing) (line : Nat) :
    (map.spans.filter fun span => span.start ≤ line) = map.spans.take (map.stopFor line) := by
  obtain ⟨_, parts⟩ := increasing.bisect_startsBy line
  have before : ∀ span ∈ map.spans.take (map.stopFor line), span.start ≤ line := by
    intro span member
    obtain ⟨i, bound, rfl⟩ := List.mem_take_iff_getElem.mp member
    exact (parts i _ (List.getElem?_eq_getElem (by omega))).mpr (Nat.lt_min.mp bound).1
  have behind : ∀ span ∈ map.spans.drop (map.stopFor line), ¬ span.start ≤ line := by
    intro span member early
    obtain ⟨i, bound, rfl⟩ := List.mem_drop_iff_getElem.mp member
    have inside := (parts _ _ (List.getElem?_eq_getElem (by omega))).mp early
    exact Nat.not_lt_of_le (Nat.le_add_right _ i) inside
  calc
    (map.spans.filter fun span => span.start ≤ line) =
        (map.spans.take (map.stopFor line)).filter (fun span => span.start ≤ line) ++
          (map.spans.drop (map.stopFor line)).filter (fun span => span.start ≤ line) := by
      rw [← List.filter_append, List.take_append_drop]
    _ = map.spans.take (map.stopFor line) := by
      rw [List.filter_eq_self.mpr (by simpa using before),
        List.filter_eq_nil_iff.mpr (by simpa using behind), List.append_nil]

theorem Increasing.spanAt?_eq_scan? {map : LineMap} (increasing : map.Increasing) (line : Nat) :
    map.spanAt? line = map.scan? line := by
  obtain ⟨upper, _⟩ := increasing.bisect_startsBy line
  rw [scan?, increasing.filter_startsBy line, spanAt?, stopFor]
  cases stop : bisect (map.startsBy line) 0 map.spans.length with
  | zero => simp
  | succ last =>
      rw [stop] at upper
      have present : map.spans[last]? = some map.spans[last] := List.getElem?_eq_getElem upper
      simp [List.getLast?_take, present]

theorem Increasing.mem_of_spanAt? {map : LineMap} (increasing : map.Increasing) {line : Nat}
    {span : Span} (found : map.spanAt? line = some span) :
    span ∈ map.spans ∧ span.start ≤ line := by
  obtain ⟨index, present, lower, _⟩ := (increasing.spanAt?_eq_some_iff line span).mp found
  exact ⟨List.mem_of_getElem? present, lower⟩

end LineMap

namespace Bundle

theorem increasing_assemble (reader : Reader) (primary : Path) (imports : List Text) :
    (assemble reader primary imports).value.map.Increasing := by
  rw [assemble_value]
  exact spansFrom_increasing 1 _ (keptScripts_filled reader primary imports)

theorem spansFrom_keptScripts (reader : Reader) (primary : Path) (imports : List Text) :
    WordSpan.spansFrom 1 (keptScripts reader primary imports) =
      (assemble reader primary imports).value.map.spans.map Span.toWords := by
  rw [assemble_value]
  exact WordSpan.spansFrom_ofNat 1 (keptScripts reader primary imports)

theorem spans_assemble_bounds (reader : Reader) (primary : Path) (imports : List Text) :
    let bundle := (assemble reader primary imports).value
    ∀ span ∈ bundle.map.spans,
      1 ≤ span.start ∧ span.start ≤ bundle.lines.length ∧ span.origin = 1 := by
  intro bundle span member
  have filled := keptScripts_filled reader primary imports
  have layout : bundle = ofScripts _ := assemble_value reader primary imports
  rw [layout] at member ⊢
  have bounds := spansFrom_bounds 1 _ filled span member
  obtain ⟨index, there⟩ := List.mem_iff_getElem?.mp member
  rw [getElem?_spans_ofScripts] at there
  obtain ⟨script, _, rfl⟩ := Option.map_eq_some_iff.mp there
  rw [length_ofScripts]
  exact ⟨bounds.1, by omega, rfl⟩

theorem spanAt?_assemble_range (reader : Reader) (primary : Path) (imports : List Text)
    (line : Nat) (span : Span)
    (found : (assemble reader primary imports).value.map.spanAt? line = some span) :
    span.start ≤ line ∧ 1 ≤ line - span.start + span.origin ∧
      line - span.start + span.origin ≤ line := by
  obtain ⟨member, lower⟩ := (increasing_assemble reader primary imports).mem_of_spanAt? found
  obtain ⟨first, _, origin⟩ := spans_assemble_bounds reader primary imports span member
  omega

end Bundle

namespace LineMap

/-- Bisection finds the last span that starts by the line, as a scan of the list does, and none
exactly if no span does. It reads a span that is there, and only such spans have a say in where it
stops. In the map of a bundle no difference falls below zero and no sum passes the bound of a word:
the line of the script lies between one and the line of the bundle. So words, in which the starts
are counted up, compared, subtracted and added, say where every line came from, if they can count
the lines of the bundle. -/
theorem lookup_exact :
    (∀ map : LineMap, map.Increasing → ∀ line,
      map.spanAt? line = map.scan? line ∧
      (map.spanAt? line = none ↔ ∀ span ∈ map.spans, ¬ span.start ≤ line) ∧
      (∀ index, map.stopFor line = index + 1 →
        index < map.spans.length ∧ map.spanAt? line = map.spans[index]?) ∧
      (∀ asked : Nat → Bool, (∀ i < map.spans.length, asked i = map.startsBy line i) →
        bisect asked 0 map.spans.length = map.stopFor line)) ∧
    (∀ reader primary imports, ∀ line : UInt64,
      let kept := Bundle.keptScripts reader primary imports
      let bundle := (Bundle.assemble reader primary imports).value
      (∀ span, bundle.map.spanAt? line.toNat = some span →
        span.start ≤ line.toNat ∧
        line.toNat - span.start + span.origin < Text.wordBound ∧
        1 ≤ line.toNat - span.start + span.origin ∧
        line.toNat - span.start + span.origin ≤ line.toNat) ∧
      (bundle.lines.length < Text.wordBound →
        (∀ span ∈ bundle.map.spans,
          span.start < Text.wordBound ∧ span.origin < Text.wordBound) ∧
        (WordSpan.source? (WordSpan.spansFrom 1 kept) line).map (fun (file, number) =>
          (file, number.toNat)) = bundle.map.source? line.toNat)) := by
  refine ⟨?_, ?_⟩
  · intro map increasing line
    refine ⟨increasing.spanAt?_eq_scan? line, ?_, ?_, ?_⟩
    · simpa using increasing.spanAt?_eq_none_iff line
    · intro index stop
      have upper := (increasing.bisect_startsBy line).1
      rw [stopFor] at stop
      rw [spanAt?, stop]
      exact ⟨by omega, rfl⟩
    · intro asked alike
      exact bisect_congr asked (map.startsBy line) 0 map.spans.length
        fun i _ inside => alike i inside
  · intro reader primary imports line kept bundle
    have bounds := Bundle.spans_assemble_bounds reader primary imports
    have wide : line.toNat < Text.wordBound := line.toNat_lt
    have range : ∀ span, bundle.map.spanAt? line.toNat = some span →
        span.start ≤ line.toNat ∧
        line.toNat - span.start + span.origin < Text.wordBound ∧
        1 ≤ line.toNat - span.start + span.origin ∧
        line.toNat - span.start + span.origin ≤ line.toNat := by
      intro span found
      obtain ⟨lower, first, last⟩ :=
        Bundle.spanAt?_assemble_range reader primary imports line.toNat span found
      exact ⟨lower, Nat.lt_of_le_of_lt last wide, first, last⟩
    refine ⟨range, ?_⟩
    intro countable
    have fits : ∀ span ∈ bundle.map.spans,
        span.start < Text.wordBound ∧ span.origin < Text.wordBound := by
      intro span member
      obtain ⟨_, upper, origin⟩ := bounds span member
      exact ⟨Nat.lt_of_le_of_lt upper countable, by rw [origin]; decide⟩
    refine ⟨fits, ?_⟩
    rw [Bundle.spansFrom_keptScripts]
    exact WordSpan.source?_toWords bundle.map line (fun span member => (fits span member).1)
      fun span found => ⟨(range span found).1, (range span found).2.1⟩

theorem lookup_exact_sample :
    let kept := Bundle.keptScripts Bundle.sampleShelf.reader Bundle.samplePath ["a.js".toList]
    let bundle :=
      (Bundle.assemble Bundle.sampleShelf.reader Bundle.samplePath ["a.js".toList]).value
    bundle.map.Increasing ∧ bundle.lines.length < Text.wordBound ∧
      bundle.map.spanAt? 0 = none ∧
      bundle.map.spanAt? 18446744073709551615 = some ⟨3, Bundle.samplePath, 1⟩ ∧
      (WordSpan.source? (WordSpan.spansFrom 1 kept) 18446744073709551615).map
        (fun (file, number) => (file, number.toNat)) =
          some (Bundle.samplePath, 18446744073709551613) := by
  intro kept bundle
  have increasing : bundle.map.Increasing := Bundle.increasing_assemble _ _ _
  have countable : bundle.lines.length < Text.wordBound := by decide
  obtain ⟨scans, places⟩ := lookup_exact
  have nothing := (scans bundle.map increasing 0).2.1.mpr (by decide)
  have last : bundle.map.spanAt? 18446744073709551615 = some ⟨3, Bundle.samplePath, 1⟩ :=
    (scans bundle.map increasing _).1.trans (by decide)
  have words := ((places Bundle.sampleShelf.reader Bundle.samplePath ["a.js".toList]
    18446744073709551615).2 countable).2
  refine ⟨increasing, countable, nothing, last, words.trans ?_⟩
  rw [source?]
  exact congrArg _ last

end LineMap

end WorkerLint
