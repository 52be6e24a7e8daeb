import WorkerLint.Tool.Grep.Settings
import WorkerLint.Tool.Pattern.Match
import WorkerLint.Tool.Perl.Parse

namespace WorkerLint.Tool.Grep

inductive Query
  | found (finder : Finder) (warnings : List Text)
  | refused (messages : List Text)

namespace Query

def located (source : Source) (text : Text) : Text :=
  match source.place with
  | some (file, line) => file ++ [':'] ++ Text.ofNat line ++ ": ".toList ++ text
  | none => text

def foldOf (settings : Settings) (set : CharSet) : CharSet :=
  if settings.ignoreCase then set.anyAsciiCase else set

def sameFor (settings : Settings) (a b : Char) : Bool :=
  a == b || (settings.ignoreCase && a.toLower == b.toLower)

def extentOf (settings : Settings) : Extent :=
  if settings.wholeLines then .lines
  else if settings.wholeWords then .words
  else .anywhere

def finderOf (settings : Settings) (whether location : Pattern) : Finder :=
  .ofPattern (sameFor settings) (extentOf settings) whether location

def ofExpressions (settings : Settings) (form : PatternForm) (sources : List Source) : Query :=
  let results := sources.map fun source =>
    (source, Pattern.parse form (foldOf settings) source.text)
  let faults := results.filterMap fun (source, result) =>
    match result with
    | .error fault => some (located source fault.message)
    | .ok _ => none
  if faults ≠ [] then .refused faults
  else
    let parsed := results.filterMap fun (_, result) => result.toOption
    let remarks := parsed.flatMap (·.remarks)
    let warnings := remarks.takeWhile (!·.isRefusal)
    match remarks.drop warnings.length with
    | [] =>
      let finders := parsed.map fun found => finderOf settings found.whether found.location
      .found (.any finders) (warnings.map (·.text))
    | refusal :: _ => .refused ((warnings ++ [refusal]).map (·.text))

def perlDepth : Nat := 20000

def perlFinder (parsed : Perl.Parsed) : Finder :=
  let groups := (0, parsed.perl) :: parsed.perl.groups
  let find (text : Text) (start : Nat) : Option (Nat × Nat) :=
    let chars := text.toArray
    (List.range (chars.size + 1 - start)).findSome? fun i =>
      let place := start + i
      let subject : Perl.Subject := ⟨chars, start, parsed.names, groups⟩
      match Perl.attempt subject perlDepth parsed.perl ⟨place, place, []⟩ some with
      | some reached => some (reached.start, reached.place - reached.start)
      | none => none
  ⟨fun text => (find text 0).isSome, find⟩

def ofPerl (settings : Settings) (sources : List Source) : Query :=
  match sources with
  | [source] =>
    let text :=
      if settings.wholeWords ∧ ¬settings.wholeLines then
        "(?<!\\w)(?:".toList ++ source.text ++ ")(?!\\w)".toList
      else source.text
    match Perl.parse settings.ignoreCase settings.wholeLines text with
    | .ok parsed => .found (perlFinder parsed) []
    | .error fault => .refused [fault.message.toList]
  | _ => .refused ["the -P option only supports a single pattern".toList]

def ofSettings (settings : Settings) : Query :=
  let sources := settings.patterns.getD []
  match settings.grammar.getD .basic with
  | .basic => ofExpressions settings .basic sources
  | .extended => ofExpressions settings .extended sources
  | .fixed =>
    let finders := sources.map fun source =>
      let literal := Pattern.literal (foldOf settings) source.text
      finderOf settings literal literal
    .found (.any finders) []
  | .perl => ofPerl settings sources

end Query

end WorkerLint.Tool.Grep
