import WorkerLint.Cli.Run
import Mathlib.Data.List.Forall2

/-! What the findings of a run look like when they are printed, said without the functions that
print them. -/

namespace WorkerLint

namespace Findings

def shortEscapes : List (Char × Char) :=
  [('"', '"'), ('\\', '\\'), ('b', '\x08'), ('f', '\x0c'), ('n', '\n'), ('r', '\r'), ('t', '\t')]

/-- What stands between the quotes of a JSON string, and the text it means. -/
inductive StringBody : Text → Text → Prop
  | done : StringBody [] []
  | plain (c : Char) (unmarked : c ≠ '"' ∧ c ≠ '\\') (printable : 0x20 ≤ c.toNat)
      {body text : Text} (behind : StringBody body text) : StringBody (c :: body) (c :: text)
  | short (letter c : Char) (paired : (letter, c) ∈ shortEscapes) {body text : Text}
      (behind : StringBody body text) : StringBody ('\\' :: letter :: body) (c :: text)
  | code (high low : Nat) (small : high < 2 ∧ low < 16) {body text : Text}
      (behind : StringBody body text) :
      StringBody ("\\u00".toList ++ [Nat.digitChar high, Nat.digitChar low] ++ body)
        (Char.ofNat (16 * high + low) :: text)

def StringOf (string text : Text) : Prop :=
  ∃ body, StringBody body text ∧ string = '"' :: body ++ ['"']

def ObjectOf (object : Text) (finding : Diagnostic) : Prop :=
  ∃ file message, StringOf file finding.file ∧ StringOf message finding.message ∧
    object = "  \x7b\n    \"file\": ".toList ++ file ++
      ",\n    \"line\": ".toList ++ Text.ofNat finding.line ++
      ",\n    \"message\": ".toList ++ message ++ "\n  \x7d".toList

/-- The output has a line for each finding and then their number, or nothing if there are none; as
JSON, it is the array of their objects. -/
def Shown : Cli.Format → List Diagnostic → Text → Prop
  | .text, findings, output =>
    output = (findings.flatMap fun finding =>
        finding.file ++ ": line ".toList ++ Text.ofNat finding.line ++ ',' :: finding.message ++
          ['\n']) ++
      if findings = [] then [] else Text.ofNat findings.length ++ " errors\n".toList
  | .json, findings, output =>
    if findings = [] then output = "[]\n".toList
    else ∃ objects, List.Forall₂ ObjectOf objects findings ∧
      output = "[\n".toList ++ Text.join ",\n".toList objects ++ "\n]".toList ++ ['\n']

def shortlyEscaped : List Char :=
  ['"', '\\', '\x08', '\x0c', '\n', '\r', '\t']

theorem jsonChar_of_control (c : Char) (long : c ∉ shortlyEscaped) (control : c.toNat < 0x20) :
    jsonChar c = "\\u00".toList ++ [hexDigit (c.toNat / 16), hexDigit (c.toNat % 16)] := by
  simp only [shortlyEscaped, List.mem_cons, List.not_mem_nil, or_false, not_or] at long
  simp [jsonChar, long, control]

theorem jsonChar_of_plain (c : Char) (long : c ∉ shortlyEscaped) (plain : ¬ c.toNat < 0x20) :
    jsonChar c = [c] := by
  simp only [shortlyEscaped, List.mem_cons, List.not_mem_nil, or_false, not_or] at long
  simp [jsonChar, long, plain]

theorem StringBody.jsonChar (c : Char) {body text : Text} (behind : StringBody body text) :
    StringBody (jsonChar c ++ body) (c :: text) := by
  by_cases escaped : c ∈ shortlyEscaped
  · simp only [shortlyEscaped, List.mem_cons, List.not_mem_nil, or_false] at escaped
    rcases escaped with rfl | rfl | rfl | rfl | rfl | rfl | rfl <;>
      exact .short _ _ (by decide) behind
  · by_cases control : c.toNat < 0x20
    · have number : 16 * (c.toNat / 16) + c.toNat % 16 = c.toNat := Nat.div_add_mod c.toNat 16
      have small : c.toNat / 16 < 2 ∧ c.toNat % 16 < 16 := by omega
      have written := StringBody.code _ _ small behind
      rwa [number, Char.ofNat_toNat, ← hexDigit, ← hexDigit,
        ← jsonChar_of_control c escaped control] at written
    · have unmarked : c ≠ '"' ∧ c ≠ '\\' := by
        constructor <;> exact fun same => escaped (by simp [same, shortlyEscaped])
      rw [jsonChar_of_plain c escaped control]
      exact .plain c unmarked (Nat.not_lt.mp control) behind

theorem stringOf_jsonString (text : Text) : StringOf (jsonString text) text := by
  refine ⟨text.flatMap jsonChar, ?_, rfl⟩
  induction text with
  | nil => exact .done
  | cons c text ih => exact ih.jsonChar c

theorem objectOf_jsonObject (finding : Diagnostic) : ObjectOf (jsonObject finding) finding :=
  ⟨_, _, stringOf_jsonString finding.file, stringOf_jsonString finding.message, rfl⟩

theorem shown_render (format : Cli.Format) (findings : List Diagnostic) :
    Shown format findings (Cli.render format findings) := by
  cases format with
  | text =>
      rw [Shown, Cli.render, text]
      split
      · rename_i none
        rw [none, List.flatMap_nil, List.append_nil]
      · exact List.append_assoc _ _ _
  | json =>
      rw [Shown, Cli.render, json]
      split
      · rfl
      · refine ⟨findings.map jsonObject, ?_, rfl⟩
        exact List.forall₂_map_left_iff.mpr
          (List.forall₂_same.mpr fun finding _ => objectOf_jsonObject finding)

end Findings

end WorkerLint
