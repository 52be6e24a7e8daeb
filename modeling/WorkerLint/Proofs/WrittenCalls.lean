import WorkerLint.Proofs.LeftmostCall
import Mathlib.Data.List.Infix

namespace WorkerLint.Text

theorem not_mem_join (c sep : Char) (texts : List Text) (other : c ≠ sep)
    (absent : ∀ text ∈ texts, c ∉ text) : c ∉ join [sep] texts := by
  induction texts with
  | nil => simp [join]
  | cons text rest ih =>
      have here := absent text List.mem_cons_self
      have below := ih fun piece member => absent piece (List.mem_cons_of_mem text member)
      cases rest with
      | nil => simpa [join] using here
      | cons next rest => simp [join, here, below, other]

end WorkerLint.Text

namespace WorkerLint.Directive

theorem token_unbordered (tail : Text) (suffix : tail <:+ token) (again : tail <+: token) :
    tail = [] ∨ tail = token := by
  have all : ∀ tail ∈ token.tails, tail <+: token → tail = [] ∨ tail = token := by decide
  exact all tail ((List.mem_tails tail token).mpr suffix) again

theorem not_token_isPrefix (front rest : Text) (filled : front ≠ [])
    (fresh : ¬ token <:+: front) : ¬ token <+: front ++ (token ++ rest) := by
  rintro ⟨behind, spelled⟩
  rcases List.append_eq_append_iff.mp spelled with ⟨extra, inside, _⟩ | ⟨tail, whole, aligned⟩
  · exact fresh ⟨[], extra, by simp [inside]⟩
  · -- A mention that begins in `front` and ends in the token overlaps with it in `tail`.
    have starts : tail <+: token ++ rest := by
      rw [aligned]
      exact List.prefix_append tail behind
    have shorter : tail.length ≤ token.length := by
      rw [whole]
      simp
    have again : tail <+: token :=
      List.prefix_of_prefix_length_le starts (List.prefix_append token rest) shorter
    rcases token_unbordered tail ⟨front, whole.symm⟩ again with none | all
    · exact fresh ⟨[], [], by simp [whole, none]⟩
    · rw [all] at whole
      exact filled (List.self_eq_append_left.mp whole)

theorem Call.leftmost_of_fresh (call : Call) (fresh : ¬ token <:+: call.before) :
    call.Leftmost := by
  rw [Call.leftmost_iff]
  intro n further
  apply Option.eq_none_iff_forall_ne_some.mpr
  intro arguments found
  obtain ⟨blanks, after, _, _, start⟩ := (argumentsAt?_eq_some_iff _ arguments).mp found
  have cut : call.text.drop n = call.before.drop n ++
      (token ++ (call.blanks ++ '(' :: call.arguments ++ [')'] ++ call.after)) := by
    rw [text, List.append_assoc, List.drop_append_of_le_length (Nat.le_of_lt further)]
    simp [spelling]
  have filled : call.before.drop n ≠ [] := by simpa using further
  have unmentioned : ¬ token <:+: call.before.drop n :=
    fun inside => fresh (inside.trans (List.drop_suffix n call.before).isInfix)
  apply not_token_isPrefix _ _ filled unmentioned
  rw [← cut, start, List.append_assoc, List.append_assoc]
  exact List.prefix_append token _

theorem isBlank_of_isQuote (c : Char) (quote : isQuote c = true) : isBlank c = false := by
  simp only [isQuote, Bool.or_eq_true, decide_eq_true_eq] at quote
  rcases quote with rfl | rfl
  · decide
  · decide

/-- A name that can be written with quotes around it: it is clean and has no quotes of its own at
its ends. -/
structure Writable (name : Text) : Prop extends Clean name where
  bareStart : ∀ c ∈ name.head?, isQuote c = false
  bareEnd : ∀ c ∈ name.getLast?, isQuote c = false

instance (name : Text) : Decidable (Writable name) :=
  decidable_of_iff (name ≠ [] ∧ ',' ∉ name ∧ ')' ∉ name ∧
      name.head?.all (fun c => !isBlank c && !isQuote c) = true ∧
      name.getLast?.all (fun c => !isBlank c && !isQuote c) = true) (by
    simp only [Option.all_eq_true, Bool.and_eq_true, Bool.not_eq_true']
    constructor
    · rintro ⟨filled, single, inner, starts, ends⟩
      exact ⟨⟨filled, single, inner, fun c first => (starts c first).1,
        fun c last => (ends c last).1⟩, fun c first => (starts c first).2,
        fun c last => (ends c last).2⟩
    · rintro ⟨⟨filled, single, inner, starts, ends⟩, bareStart, bareEnd⟩
      exact ⟨filled, single, inner, fun c first => ⟨starts c first, bareStart c first⟩,
        fun c last => ⟨ends c last, bareEnd c last⟩⟩)

/-- The arguments are the names as they are written one after another, each with blanks around it
and perhaps in quotes, and any number of vacant arguments between them. -/
inductive Written : List Text → List Text → Prop
  | nil : Written [] []
  | vacant {names arguments : List Text} (padding : Text)
      (blank : ∀ c ∈ padding, isBlank c = true) (rest : Written names arguments) :
      Written names (padding :: arguments)
  | named {names arguments : List Text} (lead : Text) (quote : Option Char) (name trail : Text)
      (front : ∀ c ∈ lead, isBlank c = true) (quoted : ∀ c ∈ quote, isQuote c = true)
      (back : ∀ c ∈ trail, isBlank c = true) (rest : Written names arguments) :
      Written (name :: names) ((lead ++ quote.toList ++ name ++ quote.toList ++ trail) :: arguments)

theorem bareName_vacant (padding : Text) (blank : ∀ c ∈ padding, isBlank c = true) :
    bareName padding = [] := by
  have vacant : Text.trim padding = [] := by
    simpa [Text.trim] using
      Text.strip_append isBlank padding [] [] blank (by simp) (by simp) (by simp)
  rw [bareName, vacant]
  rfl

theorem quoted_solid (quote : Option Char) (name : Text) (quoted : ∀ c ∈ quote, isQuote c = true)
    (clean : Clean name) :
    (∀ c ∈ (quote.toList ++ name ++ quote.toList).head?, isBlank c = false) ∧
    (∀ c ∈ (quote.toList ++ name ++ quote.toList).getLast?, isBlank c = false) := by
  cases quote with
  | none => exact ⟨by simpa using clean.starts, by simpa using clean.ends⟩
  | some q =>
      have solid : isBlank q = false := isBlank_of_isQuote q (quoted q rfl)
      constructor
      · simpa using solid
      · rw [Option.toList_some, List.getLast?_concat]
        simpa using solid

theorem bareName_named (lead : Text) (quote : Option Char) (name trail : Text)
    (front : ∀ c ∈ lead, isBlank c = true) (quoted : ∀ c ∈ quote, isQuote c = true)
    (back : ∀ c ∈ trail, isBlank c = true) (writable : Writable name) :
    bareName (lead ++ quote.toList ++ name ++ quote.toList ++ trail) = name := by
  obtain ⟨starts, ends⟩ := quoted_solid quote name quoted writable.toClean
  have outer : Text.trim (lead ++ quote.toList ++ name ++ quote.toList ++ trail) =
      quote.toList ++ name ++ quote.toList := by
    simpa [Text.trim] using Text.strip_append isBlank lead _ trail front back starts ends
  have quotes : ∀ c ∈ quote.toList, isQuote c = true := by simpa using quoted
  have inner : Text.strip isQuote (quote.toList ++ name ++ quote.toList) = name :=
    Text.strip_append isQuote _ name _ quotes quotes writable.bareStart writable.bareEnd
  have bare : Text.trim name = name := by
    simpa [Text.trim] using Text.strip_append isBlank [] name [] (by simp) (by simp)
      writable.starts writable.ends
  rw [bareName, outer, inner, bare]

theorem Written.not_mem {names arguments : List Text} (written : Written names arguments)
    (c : Char) (solid : isBlank c = false) (unquoted : isQuote c = false)
    (absent : ∀ name ∈ names, c ∉ name) : ∀ argument ∈ arguments, c ∉ argument := by
  have outside : ∀ padding : Text, (∀ d ∈ padding, isBlank d = true) → c ∉ padding := by
    intro padding blank member
    rw [blank c member] at solid
    cases solid
  induction written with
  | nil => simp
  | vacant padding blank rest ih =>
      intro argument member
      rcases List.mem_cons.mp member with rfl | member
      · exact outside _ blank
      · exact ih absent argument member
  | named lead quote name trail front quoted back rest ih =>
      have own := absent name List.mem_cons_self
      have below := ih fun other inside => absent other (List.mem_cons_of_mem name inside)
      intro argument member
      rcases List.mem_cons.mp member with rfl | member
      · have quotes : c ∉ quote.toList := by
          intro inside
          rw [quoted c (Option.mem_toList.mp inside)] at unquoted
          cases unquoted
        simp [outside lead front, outside trail back, own, quotes]
      · exact below argument member

theorem Written.bareNames {names arguments : List Text} (written : Written names arguments)
    (writable : ∀ name ∈ names, Writable name) :
    (arguments.map bareName).filter (· ≠ []) = names := by
  induction written with
  | nil => rfl
  | vacant padding blank rest ih =>
      simpa [bareName_vacant padding blank] using ih writable
  | named lead quote name trail front quoted back rest ih =>
      have own := writable name List.mem_cons_self
      have below := ih fun other inside => writable other (List.mem_cons_of_mem name inside)
      have read := bareName_named lead quote name trail front quoted back own
      rw [List.map_cons, read, List.filter_cons_of_pos (by simpa using own.filled), below]

theorem names_written (names arguments : List Text) (writable : ∀ name ∈ names, Writable name)
    (written : Written names arguments) :
    Directive.names (Text.join [','] arguments) = names := by
  have flat := written.not_mem ',' (by decide) (by decide) fun name member =>
    (writable name member).single
  have read := written.bareNames writable
  cases arguments with
  | nil =>
      rw [← read]
      rfl
  | cons first rest => rw [Directive.names, Text.pieces_join ',' first rest flat, read]

/-- Names that are written out in a call are read back, in their order and as often as they are
written, if no mention of the token stands before the call. -/
theorem imports_written (names arguments : List Text) (before blanks after : Text)
    (writable : ∀ name ∈ names, Writable name) (written : Written names arguments)
    (fresh : ¬ token <:+: before) (padding : ∀ c ∈ blanks, isBlank c = true) :
    imports (before ++ token ++ blanks ++ '(' :: Text.join [','] arguments ++ ')' :: after) =
      .ok names := by
  have closed : ')' ∉ Text.join [','] arguments := by
    apply Text.not_mem_join _ _ _ (by decide)
    exact written.not_mem ')' (by decide) (by decide)
      fun name member => (writable name member).inner
  let call : Call := ⟨before, blanks, Text.join [','] arguments, after, padding, closed⟩
  have read := imports_of_leftmost call (call.leftmost_of_fresh fresh)
  rw [names_written names arguments writable written] at read
  simpa [call, Call.text, Call.spelling] using read

def sampleNames : List Text :=
  ["importScripts(".toList, "d'e (1.js".toList, "importScripts(".toList]

def sampleArguments : List Text :=
  ["\u00a0".toList, "'importScripts('".toList, [], " \"d'e (1.js\"\n".toList,
    "importScripts(".toList]

theorem imports_written_sample :
    (∀ name ∈ sampleNames, Writable name) ∧ Written sampleNames sampleArguments ∧
    imports ("importScript".toList ++ token ++ "\u2003".toList ++
      '(' :: Text.join [','] sampleArguments ++ ')' :: ",importScripts(c)".toList) =
      .ok sampleNames := by
  have writable : ∀ name ∈ sampleNames, Writable name := by decide
  have wide : ∀ c ∈ "\u2003".toList, isBlank c = true := List.all_eq_true.mp (by decide)
  have written : Written sampleNames sampleArguments := by
    refine .vacant "\u00a0".toList (List.all_eq_true.mp (by decide)) ?_
    refine .named [] (some '\'') "importScripts(".toList [] (by simp) (by simp [isQuote])
      (by simp) ?_
    refine .vacant [] (by simp) ?_
    refine .named [' '] (some '"') "d'e (1.js".toList ['\n'] (List.all_eq_true.mp (by decide))
      (by simp [isQuote]) (List.all_eq_true.mp (by decide)) ?_
    exact .named [] none "importScripts(".toList [] (by simp) (by simp) (by simp) .nil
  exact ⟨writable, written, imports_written sampleNames sampleArguments "importScript".toList
    "\u2003".toList ",importScripts(c)".toList writable written (by decide) wide⟩

end WorkerLint.Directive
