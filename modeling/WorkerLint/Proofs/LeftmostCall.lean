import WorkerLint.Proofs.DirectiveGrammar
import WorkerLint.Proofs.PathSpelling
import WorkerLint.Proofs.Trimming

namespace WorkerLint.Text

theorem pieces_subset (sep : Char) (text : Text) : ∀ piece ∈ pieces sep text, piece ⊆ text := by
  induction text with
  | nil => simp [pieces]
  | cons c rest ih =>
      obtain ⟨first, more, cut⟩ := List.exists_cons_of_ne_nil (pieces_ne_nil sep rest)
      have wider : ∀ piece ∈ first :: more, piece ⊆ c :: rest := by
        intro piece member
        exact List.Subset.trans (ih piece (cut ▸ member)) (List.subset_cons_self c rest)
      intro piece member
      by_cases same : c = sep
      · rw [pieces, if_pos same, cut, List.mem_cons] at member
        rcases member with rfl | member
        · exact List.nil_subset _
        · exact wider piece member
      · simp only [pieces, if_neg same, cut, List.mem_cons] at member
        rcases member with rfl | member
        · exact List.cons_subset_cons c (ih first (cut ▸ List.mem_cons_self))
        · exact wider piece (List.mem_cons_of_mem first member)

end WorkerLint.Text

namespace WorkerLint.Directive

@[ext] structure Call where
  before : Text
  blanks : Text
  arguments : Text
  after : Text
  padding : ∀ c ∈ blanks, isBlank c = true
  closed : ')' ∉ arguments

namespace Call

def spelling (call : Call) : Text :=
  token ++ call.blanks ++ '(' :: call.arguments ++ [')']

def text (call : Call) : Text :=
  call.before ++ call.spelling ++ call.after

/-- No call on the same line starts further left. -/
def Leftmost (call : Call) : Prop :=
  ∀ other : Call, other.text = call.text → call.before.length ≤ other.before.length

def behind (call : Call) (c : Char) : Call :=
  { call with before := c :: call.before }

def endedBy (call : Call) (after : Text) : Call :=
  { call with after }

theorem text_behind (call : Call) (c : Char) : (call.behind c).text = c :: call.text := rfl

theorem text_endedBy (call : Call) (after : Text) :
    (call.endedBy after).text = call.before ++ call.spelling ++ after := rfl

end Call

theorem callAt_iff (line arguments : Text) :
    CallAt line arguments ↔
      ∃ call : Call, call.before = [] ∧ call.arguments = arguments ∧ call.text = line := by
  constructor
  · rintro ⟨blanks, after, padding, closed, rfl⟩
    exact ⟨⟨[], blanks, arguments, after, padding, closed⟩, rfl, rfl,
      by simp [Call.text, Call.spelling]⟩
  · rintro ⟨⟨before, blanks, arguments, after, padding, closed⟩, rfl, rfl, rfl⟩
    exact ⟨blanks, after, padding, closed, by simp [Call.text, Call.spelling]⟩

theorem hasCall_iff (line : Text) : HasCall line ↔ ∃ call : Call, call.text = line := by
  constructor
  · rintro ⟨before, blanks, arguments, after, padding, closed, rfl⟩
    exact ⟨⟨before, blanks, arguments, after, padding, closed⟩, by simp [Call.text, Call.spelling]⟩
  · rintro ⟨⟨before, blanks, arguments, after, padding, closed⟩, rfl⟩
    exact ⟨before, blanks, arguments, after, padding, closed, by simp [Call.text, Call.spelling]⟩

theorem Call.eq_of_before (call other : Call) (same : call.text = other.text)
    (level : call.before = other.before) : call = other := by
  have body : call.blanks ++ '(' :: (call.arguments ++ ')' :: call.after) =
      other.blanks ++ '(' :: (other.arguments ++ ')' :: other.after) := by
    have lined : call.before ++ (token ++ (call.blanks ++ '(' ::
        (call.arguments ++ ')' :: call.after))) =
        call.before ++ (token ++ (other.blanks ++ '(' ::
          (other.arguments ++ ')' :: other.after))) := by
      simpa [text, spelling, level] using same
    exact List.append_cancel_left (List.append_cancel_left lined)
  -- The blanks end at the first other character, the arguments at the first closing parenthesis.
  have opening : isBlank '(' = false := by decide
  have blanks : call.blanks = other.blanks := by
    have cut := congrArg (List.takeWhile isBlank) body
    rwa [takeWhile_run _ _ _ _ call.padding opening,
      takeWhile_run _ _ _ _ other.padding opening] at cut
  rw [blanks] at body
  have inner := (List.cons.inj (List.append_cancel_left body)).2
  have arguments : call.arguments = other.arguments := by
    have cut := congrArg (List.takeWhile (· ≠ ')')) inner
    rwa [takeWhile_arguments _ _ call.closed, takeWhile_arguments _ _ other.closed] at cut
  rw [arguments] at inner
  have after := (List.cons.inj (List.append_cancel_left inner)).2
  exact Call.ext level blanks arguments after

theorem Call.Leftmost.unique {call other : Call} (leftmost : call.Leftmost)
    (another : other.Leftmost) (same : call.text = other.text) : call = other := by
  have level : call.before.length = other.before.length :=
    Nat.le_antisymm (leftmost other same.symm) (another call same)
  apply Call.eq_of_before call other same
  simp only [text, List.append_assoc] at same
  exact (List.append_inj same level).1

theorem Call.leftmost_iff (call : Call) :
    call.Leftmost ↔ ∀ n < call.before.length, argumentsAt? (call.text.drop n) = none := by
  constructor
  · intro leftmost n further
    apply Option.eq_none_iff_forall_ne_some.mpr
    intro arguments found
    obtain ⟨blanks, after, padding, closed, start⟩ :=
      (argumentsAt?_eq_some_iff _ arguments).mp found
    obtain ⟨front, short, parted⟩ : ∃ front : Text, front.length ≤ n ∧
        call.text = front ++ call.text.drop n :=
      ⟨call.text.take n, List.length_take_le n _, (List.take_append_drop n _).symm⟩
    rw [start] at parted
    have earlier := leftmost ⟨front, blanks, arguments, after, padding, closed⟩ (by
      rw [parted]
      simp [text, spelling])
    exact absurd (earlier.trans short) (Nat.not_le_of_lt further)
  · intro none other same
    by_contra further
    have missing := none other.before.length (Nat.lt_of_not_le further)
    have start : CallAt (call.text.drop other.before.length) other.arguments := by
      rw [← same, text, List.append_assoc, List.drop_left]
      exact ⟨other.blanks, other.after, other.padding, other.closed, by simp [spelling]⟩
    rw [(argumentsAt?_eq_some_iff _ _).mpr start] at missing
    cases missing

instance (call : Call) : Decidable call.Leftmost :=
  decidable_of_iff _ call.leftmost_iff.symm

theorem leftmost_of_before_nil (call : Call) (start : call.before = []) : call.Leftmost := by
  intro other _
  simp [start]

theorem Call.Leftmost.behind {call : Call} (leftmost : call.Leftmost) (c : Char)
    (none : argumentsAt? (c :: call.text) = none) : (call.behind c).Leftmost := by
  rw [Call.leftmost_iff] at leftmost ⊢
  intro n further
  cases n with
  | zero => exact none
  | succ n => exact leftmost n (Nat.lt_of_succ_lt_succ further)

theorem leftmost_of_arguments? (line arguments : Text) (found : arguments? line = some arguments) :
    ∃ call : Call, call.text = line ∧ call.Leftmost ∧ call.arguments = arguments := by
  induction line with
  | nil => cases found
  | cons c rest ih =>
      rw [arguments?] at found
      cases here : argumentsAt? (c :: rest) with
      | some own =>
          simp only [here, Option.some.injEq] at found
          subst found
          obtain ⟨call, start, same, spelled⟩ :=
            (callAt_iff _ _).mp ((argumentsAt?_eq_some_iff _ own).mp here)
          exact ⟨call, spelled, leftmost_of_before_nil call start, same⟩
      | none =>
          simp only [here] at found
          obtain ⟨call, rfl, leftmost, same⟩ := ih found
          exact ⟨call.behind c, call.text_behind c, leftmost.behind c here, same⟩

theorem arguments?_of_leftmost (call : Call) (leftmost : call.Leftmost) :
    arguments? call.text = some call.arguments := by
  cases found : arguments? call.text with
  | none => exact absurd ((hasCall_iff _).mpr ⟨call, rfl⟩) ((arguments?_eq_none_iff _).mp found)
  | some arguments =>
      obtain ⟨other, same, another, rfl⟩ := leftmost_of_arguments? _ arguments found
      rw [another.unique leftmost same]

theorem imports_of_leftmost (call : Call) (leftmost : call.Leftmost) :
    imports call.text = .ok (names call.arguments) := by
  rw [imports, arguments?_of_leftmost call leftmost]

theorem imports_spelling (call : Call) :
    imports call.spelling = .ok (names call.arguments) := by
  have alone := imports_of_leftmost { call with before := [], after := [] }
    (leftmost_of_before_nil _ rfl)
  simpa [Call.text, Call.spelling] using alone

theorem exists_leftmost (line : Text) (call : HasCall line) :
    ∃ call : Call, call.text = line ∧ call.Leftmost := by
  cases found : arguments? line with
  | none => exact absurd call ((arguments?_eq_none_iff line).mp found)
  | some arguments =>
      obtain ⟨leading, same, leftmost, _⟩ := leftmost_of_arguments? line arguments found
      exact ⟨leading, same, leftmost⟩

theorem Call.closing_not_mem (call : Call) :
    ')' ∉ token ++ call.blanks ++ '(' :: call.arguments := by
  have blank : ')' ∉ call.blanks := fun member => absurd (call.padding _ member) (by decide)
  have front : ')' ∉ token := by decide
  simp [blank, front, call.closed]

/-- A call that starts further left than another one does not reach beyond its end, as it ends at
the first closing parenthesis. -/
theorem Call.spelling_ends (call other : Call) (extra : Text)
    (further : other.before.length < call.before.length)
    (longer : other.before ++ other.spelling = call.before ++ call.spelling ++ extra) :
    extra = [] := by
  obtain ⟨gap, split⟩ : ∃ gap, call.before = other.before ++ gap := by
    have inside : call.before <+: other.before ++ other.spelling := by
      rw [longer, List.append_assoc]
      exact List.prefix_append _ _
    obtain ⟨gap, whole⟩ := List.prefix_of_prefix_length_le
      (List.prefix_append other.before other.spelling) inside (Nat.le_of_lt further)
    exact ⟨gap, whole.symm⟩
  -- Otherwise the closing parenthesis of `call` would stand inside `other`, before its own.
  rcases List.eq_nil_or_concat extra with none | ⟨inner, last, rfl⟩
  · exact none
  · exfalso
    have body : token ++ other.blanks ++ '(' :: other.arguments =
        gap ++ call.spelling ++ inner := by
      have lined : other.before ++ (token ++ other.blanks ++ '(' :: other.arguments ++ [')']) =
          other.before ++ (gap ++ call.spelling ++ inner ++ [last]) := by
        rw [split] at longer
        simpa [spelling] using longer
      exact (List.append_inj' (List.append_cancel_left lined) rfl).1
    apply other.closing_not_mem
    rw [body]
    simp [spelling]

theorem Call.Leftmost.endedBy {call : Call} (leftmost : call.Leftmost) (after : Text) :
    (call.endedBy after).Leftmost := by
  intro other same
  by_contra further
  have shorter : other.before.length < call.before.length := Nat.lt_of_not_le further
  have aligned : other.before ++ other.spelling ++ other.after =
      call.before ++ call.spelling ++ after := same
  obtain ⟨extra, inside⟩ : ∃ extra, call.before ++ call.spelling =
      other.before ++ other.spelling ++ extra := by
    rcases List.append_eq_append_iff.mp aligned with ⟨extra, inside, _⟩ | ⟨extra, longer, _⟩
    · exact ⟨extra, inside⟩
    · have none := call.spelling_ends other extra shorter longer
      exact ⟨[], by rw [longer, none, List.append_nil, List.append_nil]⟩
  have older := leftmost (other.endedBy (extra ++ call.after)) (by
    rw [text_endedBy, ← List.append_assoc, ← inside, text])
  exact further older

structure Clean (name : Text) : Prop where
  filled : name ≠ []
  single : ',' ∉ name
  inner : ')' ∉ name
  starts : ∀ c ∈ name.head?, isBlank c = false
  ends : ∀ c ∈ name.getLast?, isBlank c = false

theorem bareName_subset (argument : Text) : bareName argument ⊆ argument :=
  (((Text.strip_infix isBlank _).trans (Text.strip_infix isQuote _)).trans
    (Text.strip_infix isBlank argument)).subset

theorem names_clean (arguments : Text) (closed : ')' ∉ arguments) :
    ∀ name ∈ names arguments, Clean name := by
  intro name member
  obtain ⟨read, filled⟩ := List.mem_filter.mp member
  obtain ⟨piece, inside, rfl⟩ := List.mem_map.mp read
  refine ⟨by simpa using filled, ?_, ?_, Text.head?_strip isBlank _, Text.getLast?_strip isBlank _⟩
  · intro comma
    exact Text.pieces_flat ',' arguments piece inside (bareName_subset piece comma)
  · intro closing
    exact closed (Text.pieces_subset ',' arguments piece inside (bareName_subset piece closing))

/-- A line is read exactly if a call stands on it. It is read by its leftmost call, which is unique
together with its blanks and arguments: this call alone is read the same, and so is the line with
anything else after the call. All names are clean. Any other line is refused and shown without the
blanks at its end. -/
theorem imports_leftmost_call (line : Text) :
    ((∃ found, imports line = .ok found) ↔ HasCall line) ∧
    (HasCall line → ∃! call : Call, call.text = line ∧ call.Leftmost) ∧
    (∀ call : Call, call.text = line → call.Leftmost →
      imports line = .ok (names call.arguments) ∧ imports call.spelling = imports line ∧
      ∀ after, imports (call.endedBy after).text = imports line) ∧
    (∀ found, imports line = .ok found → ∀ name ∈ found, Clean name) ∧
    (¬ HasCall line → ∃ shown, Text.TrimmedEnd isBlank line shown ∧
      imports line = .error (.malformed shown)) := by
  refine ⟨⟨?_, imports_of_hasCall line⟩, ?_, ?_, ?_, ?_⟩
  · rintro ⟨found, read⟩
    by_contra none
    rw [imports_of_no_call line none] at read
    cases read
  · intro call
    obtain ⟨leading, same, leftmost⟩ := exists_leftmost line call
    refine ⟨leading, ⟨same, leftmost⟩, ?_⟩
    rintro other ⟨again, another⟩
    exact another.unique leftmost (again.trans same.symm)
  · rintro call rfl leftmost
    have value := imports_of_leftmost call leftmost
    refine ⟨value, (imports_spelling call).trans value.symm, ?_⟩
    intro after
    exact (imports_of_leftmost _ (leftmost.endedBy after)).trans value.symm
  · intro found read
    rw [imports] at read
    cases called : arguments? line with
    | none => simp [called] at read
    | some arguments =>
        obtain ⟨call, _, _, rfl⟩ := leftmost_of_arguments? line arguments called
        simp only [called, Except.ok.injEq] at read
        rw [← read]
        exact names_clean call.arguments call.closed
  · intro none
    exact ⟨Text.trimEnd line, (Text.trimmedEnd_iff isBlank line _).mpr rfl,
      imports_of_no_call line none⟩

def sampleCall : Call :=
  ⟨"importScripts; ".toList, "\n ".toList, " 'a.js',\n, importScripts(b ".toList,
    ";importScripts(c)".toList, List.all_eq_true.mp (by decide), by decide⟩

theorem imports_leftmost_call_sample :
    sampleCall.Leftmost ∧
    imports sampleCall.text = .ok ["a.js".toList, "importScripts(b".toList] := by
  have leftmost : sampleCall.Leftmost := by decide
  obtain ⟨value, _, _⟩ := (imports_leftmost_call sampleCall.text).2.2.1 sampleCall rfl leftmost
  exact ⟨leftmost, value.trans (by decide)⟩

end WorkerLint.Directive
