import WorkerLint.Diagnostic

namespace WorkerLint.Findings

def text (findings : List Diagnostic) : Text :=
  if findings = [] then []
  else
    findings.flatMap (fun finding => finding.render ++ ['\n']) ++
      Text.ofNat findings.length ++ " errors\n".toList

def hexDigit (n : Nat) : Char :=
  Nat.digitChar n

/-- A character inside a JSON string. Quote, backslash and controls are escaped, and nothing
else. -/
def jsonChar (c : Char) : Text :=
  if c = '"' then "\\\"".toList
  else if c = '\\' then "\\\\".toList
  else if c = '\x08' then "\\b".toList
  else if c = '\x0c' then "\\f".toList
  else if c = '\n' then "\\n".toList
  else if c = '\r' then "\\r".toList
  else if c = '\t' then "\\t".toList
  else if c.toNat < 0x20 then
    "\\u00".toList ++ [hexDigit (c.toNat / 16), hexDigit (c.toNat % 16)]
  else [c]

def jsonString (text : Text) : Text :=
  '"' :: text.flatMap jsonChar ++ ['"']

def jsonObject (finding : Diagnostic) : Text :=
  "  \x7b\n    \"file\": ".toList ++ jsonString finding.file ++
    ",\n    \"line\": ".toList ++ Text.ofNat finding.line ++
    ",\n    \"message\": ".toList ++ jsonString finding.message ++ "\n  \x7d".toList

def json (findings : List Diagnostic) : Text :=
  if findings = [] then "[]".toList
  else
    "[\n".toList ++ Text.join ",\n".toList (findings.map jsonObject) ++ "\n]".toList

end WorkerLint.Findings
