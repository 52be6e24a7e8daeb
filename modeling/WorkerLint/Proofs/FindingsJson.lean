import WorkerLint.Proofs.DiagnosticMarks
import WorkerLint.Proofs.DirectiveGrammar
import WorkerLint.Proofs.RunComposition

/-! Findings printed as JSON. Every piece of the printed text tells where it ends, whatever stands
behind it: a character by its escape, a string by its closing quote, a number by the comma after it,
an object by its last string, and the list by its bracket. So different findings are printed
differently. -/

namespace WorkerLint

namespace Findings

/-- A way of writing whose spellings tell where they end: with something behind it, no spelling is
mistaken for another. -/
def SelfEnding (spell : α → Text) : Prop :=
  ∀ a b rest rest', spell a ++ rest = spell b ++ rest' → a = b ∧ rest = rest'

theorem SelfEnding.of_read {spell : α → Text} (read : Text → Option (α × Text))
    (reads : ∀ a rest, read (spell a ++ rest) = some (a, rest)) : SelfEnding spell := by
  intro a b rest rest' same
  have both := reads a rest
  rw [same, reads b rest'] at both
  cases both
  exact ⟨rfl, rfl⟩

def hexValue (c : Char) : Nat :=
  if c.isDigit then c.toNat - '0'.toNat else c.toNat - 'a'.toNat + 10

theorem hexValue_hexDigit (n : Nat) (small : n < 16) : hexValue (hexDigit n) = n := by
  revert n
  decide

def readChar? : Text → Option (Char × Text)
  | '\\' :: 'u' :: '0' :: '0' :: high :: low :: rest =>
    some (Char.ofNat (16 * hexValue high + hexValue low), rest)
  | '\\' :: 'b' :: rest => some ('\x08', rest)
  | '\\' :: 'f' :: rest => some ('\x0c', rest)
  | '\\' :: 'n' :: rest => some ('\n', rest)
  | '\\' :: 'r' :: rest => some ('\r', rest)
  | '\\' :: 't' :: rest => some ('\t', rest)
  | '\\' :: c :: rest => some (c, rest)
  | c :: rest => some (c, rest)
  | [] => none

theorem readChar?_of_plain (c : Char) (rest : Text) (plain : c ≠ '\\') :
    readChar? (c :: rest) = some (c, rest) := by
  unfold readChar?
  split <;> simp_all

theorem readChar?_jsonChar (c : Char) (rest : Text) :
    readChar? (jsonChar c ++ rest) = some (c, rest) := by
  by_cases short : c ∈ shortlyEscaped
  · simp only [shortlyEscaped, List.mem_cons, List.not_mem_nil, or_false] at short
    rcases short with rfl | rfl | rfl | rfl | rfl | rfl | rfl <;> rfl
  · by_cases control : c.toNat < 0x20
    · have number : 16 * (c.toNat / 16) + c.toNat % 16 = c.toNat := Nat.div_add_mod c.toNat 16
      rw [jsonChar_of_control c short control]
      change some (Char.ofNat (16 * hexValue (hexDigit (c.toNat / 16)) +
        hexValue (hexDigit (c.toNat % 16))), rest) = _
      rw [hexValue_hexDigit _ (by omega), hexValue_hexDigit _ (by omega), number, Char.ofNat_toNat]
    · have bare : c ≠ '\\' := fun same => short (by simp [same, shortlyEscaped])
      rw [jsonChar_of_plain c short control]
      exact readChar?_of_plain c rest bare

theorem selfEnding_jsonChar : SelfEnding jsonChar :=
  SelfEnding.of_read readChar? readChar?_jsonChar

theorem jsonChar_append_ne_quote (c : Char) (rest rest' : Text) :
    jsonChar c ++ rest ≠ '"' :: rest' := by
  intro same
  have read := readChar?_jsonChar c rest
  rw [same, readChar?_of_plain '"' rest' (by decide)] at read
  cases read
  cases same

theorem jsonInside_ends (text text' rest rest' : Text)
    (same : text.flatMap jsonChar ++ '"' :: rest = text'.flatMap jsonChar ++ '"' :: rest') :
    text = text' ∧ rest = rest' := by
  induction text generalizing text' with
  | nil =>
      cases text' with
      | nil => exact ⟨rfl, List.tail_eq_of_cons_eq same⟩
      | cons d text' =>
          rw [List.flatMap_cons, List.append_assoc] at same
          exact absurd same.symm (jsonChar_append_ne_quote d _ rest)
  | cons c text ih =>
      rw [List.flatMap_cons, List.append_assoc] at same
      cases text' with
      | nil => exact absurd same (jsonChar_append_ne_quote c _ rest')
      | cons d text' =>
          rw [List.flatMap_cons, List.append_assoc] at same
          obtain ⟨rfl, behind⟩ := selfEnding_jsonChar c d _ _ same
          obtain ⟨rfl, rfl⟩ := ih text' behind
          exact ⟨rfl, rfl⟩

theorem selfEnding_jsonString : SelfEnding jsonString := by
  intro text text' rest rest' same
  simp only [jsonString, List.cons_append, List.append_assoc, List.nil_append] at same
  exact jsonInside_ends text text' rest rest' (List.tail_eq_of_cons_eq same)

theorem number_ends (n m : Nat) (rest rest' : Text)
    (same : Text.ofNat n ++ ',' :: rest = Text.ofNat m ++ ',' :: rest') : n = m ∧ rest = rest' := by
  have digits : ∀ n rest, (Text.ofNat n ++ ',' :: rest).takeWhile isDigit = Text.ofNat n :=
    fun n rest => Directive.takeWhile_run isDigit (Text.ofNat n) rest ','
      (Diagnostic.numeral_ofNat n).2 (by decide)
  have spelled : Text.ofNat n = Text.ofNat m := by
    rw [← digits n rest, same, digits m rest']
  have value : n = m := by
    rw [← Text.digitsValue_ofNat n, spelled, Text.digitsValue_ofNat]
  subst value
  exact ⟨rfl, List.tail_eq_of_cons_eq (List.append_cancel_left same)⟩

theorem selfEnding_jsonObject : SelfEnding jsonObject := by
  rintro ⟨file, line, message⟩ ⟨file', line', message'⟩ rest rest' same
  have comma : ",\n    \"message\": ".toList = ',' :: "\n    \"message\": ".toList := by decide
  unfold jsonObject at same
  simp only [comma, List.append_assoc, List.cons_append] at same
  obtain ⟨rfl, behindFile⟩ :=
    selfEnding_jsonString file file' _ _ (List.append_cancel_left same)
  obtain ⟨rfl, behindLine⟩ := number_ends line line' _ _ (List.append_cancel_left behindFile)
  obtain ⟨rfl, behindMessage⟩ :=
    selfEnding_jsonString message message' _ _ (List.append_cancel_left behindLine)
  exact ⟨rfl, List.append_cancel_left behindMessage⟩

def jsonTail : List Diagnostic → Text
  | [] => "\n]".toList
  | finding :: rest => ",\n".toList ++ (jsonObject finding ++ jsonTail rest)

theorem join_jsonObject (finding : Diagnostic) (rest : List Diagnostic) :
    Text.join ",\n".toList ((finding :: rest).map jsonObject) ++ "\n]".toList =
      jsonObject finding ++ jsonTail rest := by
  induction rest generalizing finding with
  | nil => rfl
  | cons next rest ih =>
      have joined : Text.join ",\n".toList ((finding :: next :: rest).map jsonObject) =
          jsonObject finding ++ ",\n".toList ++
            Text.join ",\n".toList ((next :: rest).map jsonObject) := rfl
      rw [joined, List.append_assoc, List.append_assoc, ih next, jsonTail]

theorem json_cons (finding : Diagnostic) (rest : List Diagnostic) :
    json (finding :: rest) = "[\n".toList ++ (jsonObject finding ++ jsonTail rest) := by
  rw [json, if_neg (List.cons_ne_nil finding rest), List.append_assoc, join_jsonObject]

theorem jsonTail_injective : Function.Injective jsonTail := by
  intro findings
  induction findings with
  | nil =>
      intro findings' same
      cases findings' with
      | nil => rfl
      | cons finding' rest' => cases same
  | cons finding rest ih =>
      intro findings' same
      cases findings' with
      | nil => cases same
      | cons finding' rest' =>
          obtain ⟨rfl, behind⟩ :=
            selfEnding_jsonObject finding finding' _ _ (List.append_cancel_left same)
          rw [ih behind]

theorem json_injective : Function.Injective json := by
  intro findings findings' same
  cases findings with
  | nil =>
      cases findings' with
      | nil => rfl
      | cons finding' rest' =>
          rw [json_cons] at same
          cases same
  | cons finding rest =>
      rw [json_cons] at same
      cases findings' with
      | nil => cases same
      | cons finding' rest' =>
          rw [json_cons] at same
          have behind : jsonTail (finding :: rest) = jsonTail (finding' :: rest') := by
            rw [jsonTail, jsonTail, List.append_cancel_left same]
          exact jsonTail_injective behind

end Findings

namespace Cli

def ReachesPrinting (world : World σ) (options : Options) (state : σ)
    (findings : List Diagnostic) : Prop :=
  missing world options state = [] ∧
    ∃ line, CommandLine.parse options.engine options.config = .ok line ∧
      (lintEach (world.reader · options.depth) (world.engine line) options.files
        state).value.1.findings = findings

theorem ReachesPrinting.reformatted {world : World σ} {options : Options} {state : σ}
    {findings : List Diagnostic} (reached : ReachesPrinting world options state findings)
    (format : Format) :
    ReachesPrinting world { options with format := format } state findings :=
  reached

theorem ReachesPrinting.run {world : World σ} {options : Options} {state : σ}
    {findings : List Diagnostic} (reached : ReachesPrinting world options state findings) :
    ∃ code, (run world options state).value.1 = .ok ⟨code, render options.format findings⟩ := by
  obtain ⟨present, line, valid, rfl⟩ := reached
  rw [run_of_present world options state line present valid]
  exact ⟨_, rfl⟩

/-- Two runs that print as JSON print the same exactly if they have found the same. What they
print as text is then the same as well. -/
theorem json_output_determines (first : World σ) (second : World τ) (options options' : Options)
    (state : σ) (state' : τ) (findings findings' : List Diagnostic)
    (json : options.format = .json) (json' : options'.format = .json)
    (reached : ReachesPrinting first options state findings)
    (reached' : ReachesPrinting second options' state' findings') :
    ∃ outcome outcome' plain plain' : Outcome,
      (run first options state).value.1 = .ok outcome ∧
      (run second options' state').value.1 = .ok outcome' ∧
      (run first { options with format := .text } state).value.1 = .ok plain ∧
      (run second { options' with format := .text } state').value.1 = .ok plain' ∧
      (outcome.stdout = outcome'.stdout ↔ findings = findings') ∧
      (outcome.stdout = outcome'.stdout → plain.stdout = plain'.stdout) := by
  obtain ⟨code, printed⟩ := reached.run
  obtain ⟨code', printed'⟩ := reached'.run
  obtain ⟨plainCode, plain⟩ := (reached.reformatted .text).run
  obtain ⟨plainCode', plain'⟩ := (reached'.reformatted .text).run
  have determined : render options.format findings = render options'.format findings' ↔
      findings = findings' := by
    rw [json, json', render, render, List.append_left_inj]
    exact Findings.json_injective.eq_iff
  refine ⟨_, _, _, _, printed, printed', plain, plain', determined, ?_⟩
  intro same
  rw [determined.mp same]

def quotingWorld (message : Text) : World Unit :=
  let shelf : Shelf := ⟨[(⟨"a.js".toList⟩, some "a;\n".toList)]⟩
  ⟨fun _ path => (shelf.reader.read path).isOk, fun _ _ => shelf.reader, fun _ =>
    Engine.canned ⟨false, ["a.js: line 18446744073709551615,".toList ++ message]⟩⟩

theorem json_output_determines_sample :
    let options : Options := ⟨[⟨"a.js".toList⟩], none, false, "lint".toList, 3, .json⟩
    let finding message : Diagnostic := ⟨"a.js".toList, 18446744073709551615, message⟩
    let first := quotingWorld "\"".toList
    let second := quotingWorld "\\\"".toList
    ReachesPrinting first options () [finding "\"".toList] ∧
      ReachesPrinting second options () [finding "\\\"".toList] ∧
      ∃ outcome outcome' : Outcome, (run first options ()).value.1 = .ok outcome ∧
        (run second options ()).value.1 = .ok outcome' ∧ outcome.stdout ≠ outcome'.stdout := by
  intro options finding first second
  have reached : ReachesPrinting first options () [finding "\"".toList] :=
    ⟨by decide, ⟨"lint".toList, "lint".toList, [], none⟩, rfl, by decide⟩
  have reached' : ReachesPrinting second options () [finding "\\\"".toList] :=
    ⟨by decide, ⟨"lint".toList, "lint".toList, [], none⟩, rfl, by decide⟩
  obtain ⟨outcome, outcome', _, _, printed, printed', _, _, determined, _⟩ :=
    json_output_determines first second options options () () _ _ rfl rfl reached reached'
  refine ⟨reached, reached', outcome, outcome', printed, printed', ?_⟩
  intro same
  exact absurd (determined.mp same) (by decide)

end Cli

end WorkerLint
