import WorkerLint.Shell.Glob

namespace WorkerLint.Tool.Grep

structure Rule where
  pattern : Text
  includes : Bool
  deriving DecidableEq, Repr

namespace Rule

def hasWildcards : Text → Bool
  | [] => false
  | '\\' :: _ :: rest => hasWildcards rest
  | c :: rest => c == '*' || c == '?' || c == '[' || hasWildcards rest

def unescape : Text → Text
  | [] => []
  | '\\' :: c :: rest => c :: unescape rest
  | c :: rest => c :: unescape rest

def glyphs : Text → List Shell.Glyph
  | [] => []
  | '\\' :: c :: rest => ⟨c, true⟩ :: glyphs rest
  | '[' :: '^' :: rest => ⟨'[', false⟩ :: ⟨'!', false⟩ :: glyphs rest
  | c :: rest => ⟨c, false⟩ :: glyphs rest

def fits (rule : Rule) (name : Text) : Bool :=
  if hasWildcards rule.pattern then
    Shell.Glob.accepts (Shell.Glob.items (glyphs rule.pattern)) name
  else unescape rule.pattern == name

def tails : Text → List Text
  | [] => []
  | '/' :: rest => rest :: tails rest
  | _ :: rest => tails rest

/-- For a file that was named itself, the pattern may fit the end of its path. -/
def fitsPath (rule : Rule) (isNamed : Bool) (path : Text) : Bool :=
  rule.fits path || (isNamed && (tails path).any rule.fits)

/-- Of the rules that fit a path the last one counts. If none fits, it is passed over if the first
rule names files to search. -/
def excludes (rules : List Rule) (isNamed : Bool) (path : Text) : Bool :=
  match rules.reverse.find? (·.fitsPath isNamed path) with
  | some rule => !rule.includes
  | none =>
    match rules with
    | first :: _ => first.includes
    | [] => false

end Rule

end WorkerLint.Tool.Grep
