import WorkerLint.Engine.Process
import WorkerLint.Proofs.LineSplitting
import WorkerLint.Proofs.LintRuns
import WorkerLint.Proofs.Trimming
import Mathlib.Algebra.Group.Nat.Defs

namespace WorkerLint

namespace Text

def crlf (text : Text) : Text :=
  text.flatMap fun c => if c = '\n' then ['\r', '\n'] else [c]

theorem crlf_of_flat (text : Text) (flat : '\n' ∉ text) : crlf text = text := by
  induction text with
  | nil => rfl
  | cons c rest ih =>
      have other : c ≠ '\n' := fun same => flat (same ▸ List.mem_cons_self)
      have below := ih fun member => flat (List.mem_cons_of_mem c member)
      rw [crlf] at below
      simp [crlf, other, below]

theorem crlf_append_lineFeed (body rest : Text) (flat : '\n' ∉ body) :
    crlf (body ++ '\n' :: rest) = (body ++ ['\r']) ++ '\n' :: crlf rest := by
  have own := crlf_of_flat body flat
  rw [crlf] at own
  simp [crlf, own]

theorem exists_chomp (line : Text) :
    ∃ tail, line = chomp line ++ tail ∧ ∀ c ∈ tail, Diagnostic.isLineEnd c = true := by
  rw [chomp]
  split
  · rename_i rest backwards
    refine ⟨['\r', '\n'], ?_, by simp [Diagnostic.isLineEnd]⟩
    rw [← line.reverse_reverse, backwards]
    simp
  · rename_i rest _ backwards
    refine ⟨['\n'], ?_, by simp [Diagnostic.isLineEnd]⟩
    rw [← line.reverse_reverse, backwards]
    simp
  · exact ⟨[], by simp⟩

end Text

namespace Diagnostic

theorem parse?_congr (raw raw' : Text)
    (same : Text.dropEndWhile isLineEnd raw = Text.dropEndWhile isLineEnd raw') :
    parse? raw = parse? raw' := by
  rw [parse?, parse?, same]

theorem parse?_append (line tail : Text) (ends : ∀ c ∈ tail, isLineEnd c = true) :
    parse? (line ++ tail) = parse? line :=
  parse?_congr _ _ (Text.dropEndWhile_append isLineEnd line tail ends)

theorem parse?_chomp (line : Text) : parse? (Text.chomp line) = parse? line := by
  obtain ⟨tail, whole, ends⟩ := Text.exists_chomp line
  have same := parse?_append (Text.chomp line) tail ends
  rw [← whole] at same
  exact same.symm

theorem parseAll_cons (line : Text) (rest : List Text) :
    parseAll (line :: rest) = (parse? line).toList ++ parseAll rest := by
  rw [parseAll, List.filterMap_cons, parseAll]
  cases parse? line <;> rfl

theorem parseAll_lines_append (body ends rest : Text) (flat : '\n' ∉ body ++ ends)
    (trimmed : ∀ c ∈ ends, isLineEnd c = true) :
    parseAll (Text.lines (body ++ ends ++ '\n' :: rest)) =
      (parse? body).toList ++ parseAll (Text.lines rest) := by
  have behind : ∀ c ∈ ends ++ ['\n'], isLineEnd c = true := by
    intro c member
    rcases List.mem_append.mp member with member | member
    · exact trimmed c member
    · rw [List.mem_singleton.mp member]
      rfl
  rw [Text.lines, Text.splitLines_append_lineFeed _ rest flat, List.map_cons, parseAll_cons,
    parse?_chomp, List.append_assoc, parse?_append body _ behind, ← Text.lines]

theorem parseAll_lines_crlf (text : Text) :
    parseAll (Text.lines (Text.crlf text)) = parseAll (Text.lines text) := by
  induction text using Text.lineInduction with
  | flat text flat => rw [Text.crlf_of_flat text flat]
  | line body rest flat ih =>
      have returned : '\n' ∉ body ++ ['\r'] := by simp [flat]
      have plain : '\n' ∉ body ++ [] := by simpa using flat
      calc
        parseAll (Text.lines (Text.crlf (body ++ '\n' :: rest))) =
            parseAll (Text.lines (body ++ ['\r'] ++ '\n' :: Text.crlf rest)) := by
          rw [Text.crlf_append_lineFeed body rest flat]
        _ = (parse? body).toList ++ parseAll (Text.lines (Text.crlf rest)) :=
          parseAll_lines_append body ['\r'] _ returned (by simp [isLineEnd])
        _ = (parse? body).toList ++ parseAll (Text.lines rest) := by rw [ih]
        _ = parseAll (Text.lines (body ++ [] ++ '\n' :: rest)) :=
          (parseAll_lines_append body [] rest plain (by simp)).symm
        _ = parseAll (Text.lines (body ++ '\n' :: rest)) := by rw [List.append_nil]

end Diagnostic

namespace Utf8

def crlf (bytes : Bytes) : Bytes :=
  bytes.flatMap fun b => if b = 10 then [13, 10] else [b]

def crlfRead (c : Option Char) : List (Option Char) :=
  if c = some '\n' then [some '\r', some '\n'] else [c]

/-- A character that has begun is none of the first 128, whatever bytes are still to come. -/
def Partial.Wide (part : Partial) : Prop :=
  0x80 ≤ part.low ∧ 0x80 ≤ (part.code * 64 + (part.low - 0x80)) * 64 ^ (part.need - 1)

theorem wide_of_lead (b : Nat) (part : Partial) (begun : lead b = .begun part) : part.Wide := by
  rw [lead] at begun
  split_ifs at begun
  all_goals
    simp only [Lead.begun.injEq] at begun
    subst begun
    simp only [Partial.Wide, Nat.reduceSub, Nat.reducePow]
    omega

theorem lead_whole (b : Nat) (c : Char) (whole : lead b = .whole c) : c = Char.ofNat b := by
  rw [lead] at whole
  split at whole
  · cases whole
    rfl
  · split_ifs at whole

theorem ofNat_ne_lineFeed (n : Nat) (other : n ≠ 10) : Char.ofNat n ≠ '\n' := by
  intro same
  by_cases valid : n.isValidChar
  · have code : (Char.ofNat n).toNat = n := by
      rw [Char.ofNat, dif_pos valid]
      rfl
    apply other
    rw [← code, same]
    rfl
  · rw [Char.ofNat, dif_neg valid] at same
    exact absurd same (by decide)

theorem scan_broken (part : Partial) (b : UInt8) (rest : Bytes)
    (outside : ¬ (part.low ≤ b.toNat ∧ b.toNat ≤ part.high)) :
    scan (some part) (b :: rest) = none :: scan none (b :: rest) := by
  simp only [scan, if_neg outside]
  cases lead b.toNat <;> rfl

section

variable {part : Partial} (wide : part.Wide) (n : Nat) (low : part.low ≤ n)

include wide low

theorem Partial.Wide.grown :
    0x80 ≤ (part.code * 64 + (n - 0x80)) * 64 ^ (part.need - 1) := by
  have more : part.code * 64 + (part.low - 0x80) ≤ part.code * 64 + (n - 0x80) := by omega
  exact wide.2.trans (Nat.mul_le_mul_right _ more)

theorem Partial.Wide.finished (last : part.need ≤ 1) : 0x80 ≤ part.code * 64 + (n - 0x80) := by
  have grown := wide.grown n low
  have done : part.need - 1 = 0 := by omega
  rwa [done, Nat.pow_zero, Nat.mul_one] at grown

theorem Partial.Wide.next (more : ¬ part.need ≤ 1) :
    Partial.Wide ⟨part.code * 64 + (n - 0x80), part.need - 1, 0x80, 0xBF⟩ := by
  have grown := wide.grown n low
  have step : part.need - 1 = part.need - 1 - 1 + 1 := by omega
  rw [step, Nat.pow_succ'] at grown
  exact ⟨Nat.le_refl _, by simpa [Nat.mul_assoc] using grown⟩

end

theorem crlf_cons_lineFeed (rest : Bytes) : crlf (10 :: rest) = 13 :: 10 :: crlf rest := by
  simp [crlf]

theorem crlf_cons (b : UInt8) (rest : Bytes) (other : b ≠ 10) :
    crlf (b :: rest) = b :: crlf rest := by
  simp [crlf, other]

theorem Partial.Wide.scan_broken_crlf {part : Partial} (wide : part.Wide) (b : UInt8)
    (rest : Bytes) (outside : ¬ (part.low ≤ b.toNat ∧ b.toNat ≤ part.high)) :
    scan (some part) (crlf (b :: rest)) = none :: scan none (crlf (b :: rest)) := by
  by_cases feed : b = 10
  · -- the carriage return before the line feed cannot follow either
    rw [feed, crlf_cons_lineFeed]
    apply scan_broken
    rintro ⟨low, _⟩
    exact absurd (wide.1.trans low) (by decide)
  · rw [crlf_cons b rest feed]
    exact scan_broken part b (crlf rest) outside

theorem scan_crlf_cons (b : UInt8) (rest : Bytes)
    (below : ∀ begun, (∀ part ∈ begun, part.Wide) →
      scan begun (crlf rest) = (scan begun rest).flatMap crlfRead) :
    scan none (crlf (b :: rest)) = (scan none (b :: rest)).flatMap crlfRead := by
  have between := below none (by simp)
  by_cases feed : b = 10
  · subst feed
    rw [crlf_cons_lineFeed]
    simp [scan, lead, between, crlfRead]
  · have code : b.toNat ≠ 10 := fun same => feed (UInt8.toNat_inj.mp same)
    rw [crlf_cons b rest feed]
    simp only [scan]
    cases first : lead b.toNat with
    | whole c =>
        rw [lead_whole b.toNat c first]
        simp [crlfRead, ofNat_ne_lineFeed b.toNat code, between]
    | begun part =>
        apply below
        intro other same
        rw [← Option.some_inj.mp same]
        exact wide_of_lead b.toNat part first
    | malformed => simp [crlfRead, between]

theorem scan_crlf (begun : Option Partial) (bytes : Bytes) (wide : ∀ part ∈ begun, part.Wide) :
    scan begun (crlf bytes) = (scan begun bytes).flatMap crlfRead := by
  induction bytes generalizing begun with
  | nil => cases begun <;> simp [scan, crlf, crlfRead]
  | cons b rest ih =>
      cases begun with
      | none => exact scan_crlf_cons b rest ih
      | some part =>
          have broad := wide part rfl
          by_cases inside : part.low ≤ b.toNat ∧ b.toNat ≤ part.high
          · have feed : b ≠ 10 := by
              rintro rfl
              exact absurd (broad.1.trans inside.1) (by decide)
            rw [crlf_cons b rest feed]
            simp only [scan, if_pos inside]
            by_cases last : part.need ≤ 1
            · have code := broad.finished b.toNat inside.1 last
              have other := ofNat_ne_lineFeed (part.code * 64 + (b.toNat - 0x80)) (by omega)
              simp [last, crlfRead, other, ih]
            · rw [if_neg last, if_neg last]
              apply ih
              intro next same
              rw [← Option.some_inj.mp same]
              exact broad.next b.toNat inside.1 last
          · rw [broad.scan_broken_crlf b rest inside, scan_broken part b rest inside,
              scan_crlf_cons b rest ih]
            rfl

theorem decodeLossy_crlf (bytes : Bytes) :
    decodeLossy (crlf bytes) = Text.crlf (decodeLossy bytes) := by
  rw [decodeLossy, scan_crlf none bytes (by simp), decodeLossy, Text.crlf, List.map_flatMap,
    List.flatMap_map]
  apply List.flatMap_congr
  intro c _
  cases c with
  | none => rfl
  | some c => by_cases feed : c = '\n' <;> simp [crlfRead, feed]

end Utf8

structure Exit.Alike (exit exit' : Exit) : Prop where
  success : exit'.success = exit.success
  stdout : exit'.stdout = exit.stdout ∨ exit'.stdout = Utf8.crlf exit.stdout
  stderr : exit'.stderr = exit.stderr ∨ exit'.stderr = Utf8.crlf exit.stderr

/-- Two machines on which processes differ in the line ends of what they print, and in nothing
else. -/
structure Host.Alike (host host' : Host σ) : Prop where
  scratch : host'.scratch = host.scratch
  ended : ∀ stage argv state exit after, host.start stage argv state = .ok (exit, after) →
    ∃ exit', host'.start stage argv state = .ok (exit', after) ∧ exit.Alike exit'
  failed : ∀ stage argv state cause, host.start stage argv state = .error cause →
    host'.start stage argv state = .error cause

structure EngineOutput.Alike (output output' : EngineOutput) : Prop where
  passed : output'.passed = output.passed
  said : Diagnostic.parseAll output'.lines = Diagnostic.parseAll output.lines

theorem Lint.directReport_alike {output output' : EngineOutput} (alike : output.Alike output') :
    directReport output' = directReport output := by
  rw [directReport, directReport, alike.passed, alike.said]

theorem Lint.mergedReport_alike (bundle : Bundle) (path : Path) {output output' : EngineOutput}
    (alike : output.Alike output') :
    mergedReport bundle path output' = mergedReport bundle path output := by
  simp only [mergedReport, Diagnostic.relocateAllTo, alike.said]

theorem parseAll_decoded (bytes bytes' : Bytes)
    (alike : bytes' = bytes ∨ bytes' = Utf8.crlf bytes) :
    Diagnostic.parseAll (Text.lines (Utf8.decodeLossy bytes')) =
      Diagnostic.parseAll (Text.lines (Utf8.decodeLossy bytes)) := by
  rcases alike with rfl | rfl
  · rfl
  · rw [Utf8.decodeLossy_crlf, Diagnostic.parseAll_lines_crlf]

theorem Exit.Alike.output {exit exit' : Exit} (alike : exit.Alike exit') :
    exit.output.Alike exit'.output := by
  have printed := parseAll_decoded _ _ alike.stdout
  have complained := parseAll_decoded _ _ alike.stderr
  refine ⟨alike.success, ?_⟩
  rw [Diagnostic.parseAll] at printed complained ⊢
  simp only [Exit.output, List.filterMap_append, printed, complained, Diagnostic.parseAll]

section

variable {host host' : Host σ} (alike : host.Alike host')

include alike

theorem CommandLine.startWords_alike (stage : Option (Path × Text)) (argv : List Bytes)
    (state : σ) :
    (∃ cause, startWords host stage argv state = .error cause ∧
      startWords host' stage argv state = .error cause) ∨
    ∃ output output' after, startWords host stage argv state = .ok (output, after) ∧
      startWords host' stage argv state = .ok (output', after) ∧
      EngineOutput.Alike output output' := by
  simp only [startWords]
  split
  · exact Or.inl ⟨_, rfl, rfl⟩
  · cases started : host.start stage argv state with
    | error cause =>
        have started' := alike.failed stage argv state cause started
        exact Or.inl ⟨cause, rfl, by rw [started']; rfl⟩
    | ok result =>
        obtain ⟨exit', started', same⟩ := alike.ended stage argv state _ _ started
        exact Or.inr ⟨_, exit'.output, result.2, rfl, by rw [started']; rfl, same.output⟩

theorem CommandLine.notes_alike (line : CommandLine) (request : Request) :
    line.notes host' request = line.notes host request := by
  rw [notes, notes, target, target, alike.scratch]

theorem CommandLine.settle_alike (line : CommandLine) (request : Request) (state : σ)
    (report : EngineOutput → Report)
    (reads : ∀ {output output'}, EngineOutput.Alike output output' →
      report output' = report output) :
    Lint.settle report state (line.answer host' request state) =
      Lint.settle report state (line.answer host request state) := by
  simp only [answer, target, alike.scratch]
  split
  · rfl
  · rename_i file _
    rcases startWords_alike alike (staged request file) (line.argv file) state with
      ⟨cause, started, started'⟩ | ⟨output, output', after, started, started', same⟩
    · rw [started, started']
    · rw [started, started']
      simp only [Lint.settle, reads same]

theorem Lint.merged_alike (line : CommandLine) (reader : Reader) (path : Path)
    (imports : List Text) (state : σ) :
    merged reader (line.engine host') path imports state =
      merged reader (line.engine host) path imports state := by
  rw [merged_run, merged_run]
  simp only [Engine.events, CommandLine.engine, line.notes_alike alike,
    line.settle_alike alike _ state _ (mergedReport_alike _ path)]

theorem Lint.direct_alike (line : CommandLine) (path : Path) (text : Text) (state : σ) :
    direct (line.engine host') path text state = direct (line.engine host) path text state := by
  rw [direct_run, direct_run]
  simp only [Engine.events, CommandLine.engine, line.notes_alike alike,
    line.settle_alike alike _ state _ directReport_alike]

theorem Lint.file_alike (line : CommandLine) (reader : Reader) (path : Path) (state : σ) :
    file reader (line.engine host') path state = file reader (line.engine host) path state := by
  have bundled : ∀ imports, merged reader (line.engine host') path imports =
      merged reader (line.engine host) path imports :=
    fun imports => funext (merged_alike alike line reader path imports)
  have alone : ∀ text, direct (line.engine host') path text = direct (line.engine host) path text :=
    fun text => funext (direct_alike alike line path text)
  simp only [file, bundled, alone]

end

/-- A carriage return before every line feed of what the engine prints changes no diagnostic: not
those that are read in a text, and not those of a run whose engine is a command, whichever of its
two outputs has them and in whatever bytes it is printed. -/
theorem lineEnds_irrelevant :
    (∀ text : Text,
      Diagnostic.parseAll (Text.lines (Text.crlf text)) = Diagnostic.parseAll (Text.lines text)) ∧
    ∀ (σ : Type) (host host' : Host σ), host.Alike host' →
      ∀ (line : CommandLine) (reader : Reader) (path : Path) (state : σ),
        Lint.file reader (line.engine host') path state =
          Lint.file reader (line.engine host) path state ∧
        ∀ imports, Lint.merged reader (line.engine host') path imports state =
          Lint.merged reader (line.engine host) path imports state := by
  refine ⟨Diagnostic.parseAll_lines_crlf, ?_⟩
  intro σ host host' alike line reader path state
  exact ⟨Lint.file_alike alike line reader path state,
    fun imports => Lint.merged_alike alike line reader path imports state⟩

def printingHost (filter filter' : Bytes → Bytes) : Host Unit where
  scratch := .ok ⟨"/tmp/s.js".toList⟩
  start _ _ _ := .ok (⟨filter (Utf8.encode "a.js: line 1,\u00e9\r\n\na.js: line 2,m\r".toList),
    filter' (Utf8.encode "a.js: line 3,n\n".toList), false⟩, ())

theorem lineEnds_irrelevant_sample :
    let shelf : Shelf := ⟨[(⟨"a.js".toList⟩, some "f();\n".toList)]⟩
    let line : CommandLine := ⟨"lint".toList, "lint".toList, [], none⟩
    let host := printingHost Utf8.crlf id
    (Lint.file shelf.reader (line.engine host) ⟨"a.js".toList⟩ ()).value.1 =
      .ok ⟨.direct, false, [⟨"a.js".toList, 1, "\u00e9".toList⟩, ⟨"a.js".toList, 2, "m".toList⟩,
        ⟨"a.js".toList, 3, "n".toList⟩]⟩ := by
  intro shelf line host
  have alike : (printingHost id id).Alike host := by
    refine ⟨rfl, ?_, ?_⟩
    · rintro _ _ _ exit _ ⟨⟩
      exact ⟨_, rfl, rfl, Or.inr rfl, Or.inl rfl⟩
    · rintro _ _ _ _ ⟨⟩
  have same := (lineEnds_irrelevant.2 Unit (printingHost id id) host alike line shelf.reader
    ⟨"a.js".toList⟩ ()).1
  rw [same]
  decide +kernel

end WorkerLint
