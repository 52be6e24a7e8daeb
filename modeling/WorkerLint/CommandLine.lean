import WorkerLint.Fault

namespace WorkerLint

namespace Words

inductive State
  | between
  | comment
  | plain (word : Text)
  | escaped (word : Text)
  | single (word : Text)
  | double (word : Text)
  | doubleEscaped (word : Text)
  deriving DecidableEq, Repr

def isGap (c : Char) : Bool :=
  c = ' ' || c = '\t' || c = '\n'

def extend (word : Text) (c : Char) : State :=
  if c = '"' then .double word
  else if c = '\'' then .single word
  else if c = '\\' then .escaped word
  else .plain (word ++ [c])

def doubleEscapes : List Char :=
  ['$', '\x60', '"', '\\']

/-- The words of a text from a state on. Quotes and backslashes are taken away, and a comment
starts with a hash mark where a word could. An open quote or a final backslash is no text of
words. -/
def scan : State → Text → Option (List Text)
  | .between, [] => some []
  | .comment, [] => some []
  | .plain word, [] => some [word]
  | .escaped _, [] => none
  | .single _, [] => none
  | .double _, [] => none
  | .doubleEscaped _, [] => none
  | .between, c :: rest =>
    if isGap c then scan .between rest
    else if c = '#' then scan .comment rest
    else scan (extend [] c) rest
  | .comment, c :: rest => scan (if c = '\n' then .between else .comment) rest
  | .plain word, c :: rest =>
    if isGap c then (scan .between rest).map (word :: ·) else scan (extend word c) rest
  | .escaped word, c :: rest => scan (.plain (if c = '\n' then word else word ++ [c])) rest
  | .single word, c :: rest =>
    scan (if c = '\'' then .plain word else .single (word ++ [c])) rest
  | .double word, c :: rest =>
    scan
      (if c = '"' then .plain word
        else if c = '\\' then .doubleEscaped word
        else .double (word ++ [c]))
      rest
  | .doubleEscaped word, c :: rest =>
    scan
      (.double
        (if c ∈ doubleEscapes then word ++ [c]
          else if c = '\n' then word
          else word ++ ['\\', c]))
      rest

def split? (text : Text) : Option (List Text) :=
  scan .between text

def quoteChar (c : Char) : Text :=
  if c = '\'' then ['\'', '\\', '\'', '\''] else [c]

def quote (word : Text) : Text :=
  '\'' :: word.flatMap quoteChar ++ ['\'']

def unsplit (words : List Text) : Text :=
  Text.join [' '] (words.map quote)

end Words

structure CommandLine where
  command : Text
  program : Text
  args : List Text
  config : Option Path
  deriving DecidableEq, Repr

namespace CommandLine

def defaultCommand : Text :=
  "jshint".toList

/-- Splits a command. One without words, or that cannot be split, is refused. -/
def parse (command : Text) (config : Option Path) : Except Fault CommandLine :=
  match Words.split? command with
  | some (program :: args) => .ok ⟨command, program, args, config⟩
  | some [] => .error (.engine command .noCommand)
  | none => .error (.engine command .noCommand)

def configWords : Option Path → List Bytes
  | none => []
  | some config => ["--config".toList, config.bytes]

def argv (line : CommandLine) (file : Path) : List Bytes :=
  (line.program :: line.args).map Utf8.encode ++ configWords line.config ++ [file.bytes]

end CommandLine

end WorkerLint
