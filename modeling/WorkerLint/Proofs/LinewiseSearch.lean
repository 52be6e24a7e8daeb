import WorkerLint.Proofs.PhysicalLines
import WorkerLint.Proofs.SingleCall
import Mathlib.Data.List.Infix

namespace WorkerLint

def Holds (word : Text) (lines : List Text) : Prop :=
  ∃ line ∈ lines, word <:+: line

namespace Text

theorem infix_line_iff (word body rest : Text) (flat : '\n' ∉ word) :
    word <:+: (body ++ ['\n']) ++ rest ↔ word <:+: body ++ ['\n'] ∨ word <:+: rest := by
  rw [List.infix_append_iff_ne_nil]
  constructor
  · rintro (before | behind | ⟨front, back, filled, _, rfl, ⟨start, reach⟩, _⟩)
    · exact Or.inl before
    · exact Or.inr behind
    · -- A word across the boundary would hold the line end, the last character before it.
      have last : front.getLast? = some '\n' := by
        have whole := congrArg List.getLast? reach
        rwa [List.getLast?_append_of_ne_nil _ filled, List.getLast?_concat] at whole
      exact absurd (List.mem_append_left back (List.mem_of_getLast? last)) flat
  · rintro (before | behind)
    · exact Or.inl before
    · exact Or.inr (Or.inl behind)

theorem holds_splitLines_iff (word text : Text) (filled : word ≠ []) (flat : '\n' ∉ word) :
    Holds word (splitLines text) ↔ word <:+: text := by
  induction text using lineInduction with
  | flat text single =>
      by_cases vacant : text = []
      · simp [Holds, vacant, splitLines, filled]
      · simp [Holds, splitLines_of_flat text vacant single]
  | line body rest single ih =>
      have parted := infix_line_iff word body rest flat
      rw [List.append_assoc, List.singleton_append] at parted
      rw [splitLines_append_lineFeed body rest single, parted, ← ih]
      simp [Holds]

end Text

namespace Script

/-- A word that stands on one line, that the scope of a strict script does not hold, and that does
not begin with an end of the opener. -/
structure Scopeless (word : Text) : Prop where
  filled : word ≠ []
  flat : '\n' ∉ word
  closed : ¬ word <:+: scopeCloser
  opened : ¬ word <:+: scopeOpener
  unbegun : ∀ ending ∈ scopeOpener.tails, ending ≠ [] → ¬ ending <+: word

theorem Scopeless.infix_opened_iff {word : Text} (scopeless : Scopeless word) (line : Text) :
    word <:+: scopeOpener ++ line ↔ word <:+: line := by
  rw [List.infix_append_iff_ne_nil]
  constructor
  · rintro (inside | behind | ⟨front, back, filled, _, rfl, ending, _⟩)
    · exact absurd inside scopeless.opened
    · exact behind
    · exact absurd (List.prefix_append front back)
        (scopeless.unbegun front ((List.mem_tails front scopeOpener).mpr ending) filled)
  · exact fun behind => Or.inr (Or.inl behind)

theorem Scopeless.holds_endLastLine_iff {word : Text} (scopeless : Scopeless word)
    (lines : List Text) : Holds word (endLastLine lines) ↔ Holds word lines := by
  have ended : ∀ line, word <:+: endLine line ↔ word <:+: line := by
    intro line
    rw [← Text.contains_eq_true_iff, ← Text.contains_eq_true_iff,
      contains_endLine word scopeless.filled scopeless.flat]
  fun_induction endLastLine lines with
  | case1 => rfl
  | case2 line => simp [Holds, ended]
  | case3 line rest _ ih =>
      simp only [Holds, List.exists_mem_cons_iff]
      exact or_congr_right ih

theorem Scopeless.holds_scopeStrict_iff {word : Text} (scopeless : Scopeless word)
    (lines : List Text) : Holds word (scopeStrict lines) ↔ Holds word lines := by
  cases strict : isStrict lines with
  | false => rw [scopeStrict_of_sloppy lines strict]
  | true =>
      cases lines with
      | nil => cases strict
      | cons first rest =>
          rw [scopeStrict_of_strict first rest strict]
          simp [Holds, scopeless.infix_opened_iff, scopeless.closed]

theorem Scopeless.holds_prepare_iff {word : Text} (scopeless : Scopeless word)
    (lines : List Text) : Holds word (prepare lines) ↔ Holds word lines := by
  rw [prepare, scopeless.holds_scopeStrict_iff, scopeless.holds_endLastLine_iff]

/-- A test of lines that finds in the lines of a text what stands in the text, and finds in the
prepared lines of a script what it finds in the raw ones. -/
structure Linewise (test : Text → Bool) (found : Text → Prop) : Prop where
  whole : ∀ text, (Text.splitLines text).any test = true ↔ found text
  prepared : ∀ lines, (prepare lines).any test = lines.any test

def holdsOne (words : List Text) (line : Text) : Bool :=
  words.any fun word => Text.contains word line

theorem any_holdsOne_iff (words lines : List Text) :
    lines.any (holdsOne words) = true ↔ ∃ word ∈ words, Holds word lines := by
  simp only [holdsOne, List.any_eq_true, Text.contains_eq_true_iff, Holds]
  constructor
  · rintro ⟨line, member, word, listed, inside⟩
    exact ⟨word, listed, line, member, inside⟩
  · rintro ⟨word, listed, line, member, inside⟩
    exact ⟨line, member, word, listed, inside⟩

theorem linewise_holdsOne (words : List Text) (scopeless : ∀ word ∈ words, Scopeless word) :
    Linewise (holdsOne words) fun text => ∃ word ∈ words, word <:+: text := by
  constructor
  · intro text
    rw [any_holdsOne_iff]
    apply exists_congr
    intro word
    apply and_congr_right
    intro listed
    have own := scopeless word listed
    exact Text.holds_splitLines_iff word text own.filled own.flat
  · intro lines
    rw [Bool.eq_iff_iff, any_holdsOne_iff, any_holdsOne_iff]
    apply exists_congr
    intro word
    apply and_congr_right
    intro listed
    exact (scopeless word listed).holds_prepare_iff lines

theorem scopeless_token : Scopeless Directive.token := by
  refine ⟨?_, ?_, ?_, ?_, ?_⟩ <;> decide

theorem scopeless_pragma : ∀ pragma ∈ strictPragmas, Scopeless pragma := by
  intro pragma listed
  refine ⟨?_, ?_, ?_, ?_, ?_⟩
  all_goals
    revert pragma
    decide

theorem linewise_mentions : Linewise Directive.mentions fun text => Directive.token <:+: text := by
  have single := linewise_holdsOne [Directive.token] (by simpa using scopeless_token)
  have test : holdsOne [Directive.token] = Directive.mentions := by
    funext line
    simp [holdsOne, Directive.mentions]
  simpa [test] using single

def OptsIn (text : Text) : Prop :=
  "'use strict'".toList <:+: text ∨ "\"use strict\"".toList <:+: text

theorem linewise_isStrict : Linewise (holdsOne strictPragmas) OptsIn := by
  have listed : OptsIn = fun text => ∃ pragma ∈ strictPragmas, pragma <:+: text := by
    funext text
    simp [OptsIn, strictPragmas]
  rw [listed]
  exact linewise_holdsOne strictPragmas scopeless_pragma

end Script

namespace Bundle

section

variable {test : Text → Bool} {found : Text → Prop} (linewise : Script.Linewise test found)
include linewise

theorem any_ofScripts (scripts : List Script) :
    (ofScripts scripts).lines.any test = scripts.any fun script => script.lines.any test := by
  have each : ∀ script : Script, script.prepared.any test = script.lines.any test :=
    fun script => linewise.prepared script.lines
  simp [ofScripts, List.any_flatten, Function.comp_def, each]

theorem any_assemble_iff (reader : Reader) (primary : Path) (imports : List Text) :
    (assemble reader primary imports).value.lines.any test = true ↔
      ∃ script ∈ keptScripts reader primary imports, script.lines.any test = true := by
  rw [assemble_value, any_ofScripts linewise, List.any_eq_true]

theorem any_lines_iff_of_read (reader : Reader) (script : Script)
    (read : ∃ text, reader.read script.path = .ok text ∧ script.lines = Text.splitLines text) :
    script.lines.any test = true ↔ ∃ text, reader.read script.path = .ok text ∧ found text := by
  obtain ⟨text, readable, cut⟩ := read
  rw [cut, linewise.whole]
  constructor
  · exact fun there => ⟨text, readable, there⟩
  · rintro ⟨other, again, there⟩
    rw [readable] at again
    cases again
    exact there

theorem any_assemble_iff_read (reader : Reader) (plain : reader.Plain) (primary : Path)
    (imports : List Text) :
    (assemble reader primary imports).value.lines.any test = true ↔
      ∃ script ∈ keptScripts reader primary imports,
        ∃ text, reader.read script.path = .ok text ∧ found text := by
  rw [any_assemble_iff linewise]
  apply exists_congr
  intro script
  apply and_congr_right
  intro member
  exact any_lines_iff_of_read linewise reader script
    (keptScripts_read reader plain primary imports script member)

theorem any_assemble_iff_text (reader : Reader) (plain : reader.Plain) (primary : Path)
    (imports : List Text) :
    (assemble reader primary imports).value.lines.any test = true ↔
      found (assemble reader primary imports).value.text := by
  have cut := keptScripts_cut reader plain primary imports
  rw [← linewise.whole, assemble_value, splitLines_text _ cut]

end

/-- The directive and the strict pragmas are found on the lines of a text exactly if they stand in
the text. A script gives the same answers before and after it is prepared, and a bundle those of
the scripts that it keeps: it mentions the directive, or is strict, exactly if the text of one of
them does, and its own text says the same. -/
theorem assemble_found (reader : Reader) (primary : Path) (imports : List Text) :
    let kept := keptScripts reader primary imports
    let bundle := (assemble reader primary imports).value
    (∀ text, (Text.splitLines text).any Directive.mentions = true ↔ Directive.token <:+: text) ∧
    (∀ text, Script.isStrict (Text.splitLines text) = true ↔ Script.OptsIn text) ∧
    (∀ script : Script,
      script.prepared.any Directive.mentions = script.lines.any Directive.mentions ∧
      Script.isStrict script.prepared = Script.isStrict script.lines) ∧
    (bundle.lines.any Directive.mentions = true ↔
      ∃ script ∈ kept, script.lines.any Directive.mentions = true) ∧
    (Script.isStrict bundle.lines = true ↔
      ∃ script ∈ kept, Script.isStrict script.lines = true) ∧
    (reader.Plain →
      (bundle.lines.any Directive.mentions = true ↔
        ∃ script ∈ kept, ∃ text, reader.read script.path = .ok text ∧
          Directive.token <:+: text) ∧
      (Script.isStrict bundle.lines = true ↔
        ∃ script ∈ kept, ∃ text, reader.read script.path = .ok text ∧ Script.OptsIn text) ∧
      (bundle.lines.any Directive.mentions = true ↔ Directive.token <:+: bundle.text) ∧
      (Script.isStrict bundle.lines = true ↔ Script.OptsIn bundle.text)) := by
  intro kept bundle
  have directive := Script.linewise_mentions
  have strict := Script.linewise_isStrict
  refine ⟨directive.whole, strict.whole, ?_, any_assemble_iff directive reader primary imports,
    any_assemble_iff strict reader primary imports, ?_⟩
  · intro script
    exact ⟨directive.prepared script.lines, strict.prepared script.lines⟩
  · intro plain
    exact ⟨any_assemble_iff_read directive reader plain primary imports,
      any_assemble_iff_read strict reader plain primary imports,
      any_assemble_iff_text directive reader plain primary imports,
      any_assemble_iff_text strict reader plain primary imports⟩

def halvedShelf : Shelf :=
  ⟨[(⟨"w/a.js".toList⟩, some "\"use strict\";\nimport".toList),
    (⟨"w/b.js".toList⟩, some "Scripts('c.js');\n".toList)]⟩

theorem assemble_found_sample :
    let bundle := (assemble halvedShelf.reader samplePath ["a.js".toList]).value
    bundle.lines.any Directive.mentions = false ∧ ¬ Directive.token <:+: bundle.text ∧
      Script.isStrict bundle.lines = true ∧ Script.OptsIn bundle.text := by
  intro bundle
  obtain ⟨_, _, _, _, declared, texts⟩ :=
    assemble_found halvedShelf.reader samplePath ["a.js".toList]
  obtain ⟨_, _, mentioned, optsIn⟩ := texts halvedShelf.reader_plain
  have silent : bundle.lines.any Directive.mentions = false := by decide
  have strict : Script.isStrict bundle.lines = true :=
    declared.mpr ⟨⟨⟨"w/a.js".toList⟩, ["\"use strict\";\n".toList, "import".toList]⟩,
      by decide, by decide⟩
  refine ⟨silent, ?_, strict, optsIn.mp strict⟩
  intro inside
  rw [mentioned.mpr inside] at silent
  cases silent

end Bundle

end WorkerLint
