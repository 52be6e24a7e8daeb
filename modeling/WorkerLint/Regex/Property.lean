import WorkerLint.Regex.Fault
import WorkerLint.Regex.Property.Break
import WorkerLint.Text.Age
import WorkerLint.Text.ScriptUse

namespace WorkerLint.Regex

inductive Query
  | property (name : Text)
  | value (name value : Text)
  deriving DecidableEq, Repr

namespace Property

def scriptSets : List (List String × CharSet) :=
  scripts.map fun (names, ranges) => (names, ranges.holds)

def emptyScripts : List String :=
  ["hrkt", "katakanaorhiragana", "unknown", "zzzz"]

def isShared : CharSet :=
  fun c => scriptUses.any fun (_, ranges) => ranges.holds c

/-- The characters that each script uses. Those that belong to no script, or to the one before
them, are used by the scripts they are listed for, and by all others if they are listed for none. -/
def scriptUseSets : List (List String × CharSet) :=
  scripts.map fun (names, ranges) =>
    if names.contains "common" || names.contains "inherited" then
      (names, fun c => ranges.holds c && !isShared c)
    else
      let more : Ranges :=
        ((scriptUses.find? fun (name, _) => names.contains name).map (·.2)).getD #[]
      (names, fun c => ranges.holds c || more.holds c)

def ageNames (version : String) : List String :=
  [version, String.ofList ('v' :: version.toList.filter (· ≠ '.'))]

def ageSetsFrom (earlier : CharSet) : List (String × Ranges) → List (List String × CharSet)
  | [] => []
  | (version, ranges) :: rest =>
    let here := CharSet.union earlier ranges.holds
    (ageNames version, here) :: ageSetsFrom here rest

def ageSets : List (List String × CharSet) :=
  ageSetsFrom CharSet.none ages

def valued : List (List String × List (List String × CharSet)) := [
  (["age"], ageSets), (["gc", "generalcategory"], categories),
  (["gcb", "graphemeclusterbreak"], graphemeBreaks), (["sb", "sentencebreak"], sentenceBreaks),
  (["sc", "script"], scriptSets), (["scx", "scriptextensions"], scriptUseSets),
  (["wb", "wordbreak"], wordBreaks)]

def otherNames : List String := [
  "bc", "bidiclass", "bidimirroringglyph", "bidipairedbracket", "bidipairedbrackettype", "blk",
  "block", "bmg", "bpb", "bpt", "canonicalcombiningclass", "casefolding", "ccc", "ce", "cf",
  "changeswhennfkccasefolded", "cjkaccountingnumeric", "cjkcompatibilityvariant", "cjkiicore",
  "cjkirggsource", "cjkirghsource", "cjkirgjsource", "cjkirgkpsource", "cjkirgksource",
  "cjkirgmsource", "cjkirgssource", "cjkirgtsource", "cjkirguksource", "cjkirgusource",
  "cjkirgvsource", "cjkothernumeric", "cjkprimarynumeric", "cjkrsunicode", "compex",
  "compositionexclusion", "cwkcf", "decompositionmapping", "decompositiontype", "dm", "dt", "ea",
  "eastasianwidth", "equideo", "equivalentunifiedideograph", "expandsonnfc", "expandsonnfd",
  "expandsonnfkc", "expandsonnfkd", "fcnfkc", "fcnfkcclosure", "fullcompositionexclusion",
  "hangulsyllabletype", "hst", "incb", "indicconjunctbreak", "indicpositionalcategory",
  "indicsyllabiccategory", "inpc", "insc", "isc", "jamoshortname", "jg", "joininggroup",
  "joiningtype", "jsn", "jt", "kaccountingnumeric", "kcompatibilityvariant", "kehcat", "kehdesc",
  "kehhg", "kehifao", "kehjsesh", "kehnomirror", "kehnorotate", "kiicore", "kirggsource",
  "kirghsource", "kirgjsource", "kirgkpsource", "kirgksource", "kirgmsource", "kirgssource",
  "kirgtsource", "kirguksource", "kirgusource", "kirgvsource", "kothernumeric", "kprimarynumeric",
  "krsunicode", "lb", "lc", "linebreak", "lowercasemapping", "na", "na1", "name", "namealias",
  "nfcqc", "nfcquickcheck", "nfdqc", "nfdquickcheck", "nfkccasefold", "nfkccf", "nfkcqc",
  "nfkcquickcheck", "nfkcscf", "nfkcsimplecasefold", "nfkdqc", "nfkdquickcheck", "nt",
  "numerictype", "numericvalue", "nv", "ocomment", "scf", "sfc", "simplecasefolding",
  "simplelowercasemapping", "simpletitlecasemapping", "simpleuppercasemapping", "slc", "stc",
  "suc", "tc", "titlecasemapping", "uc", "unicode1name", "unicoderadicalstroke",
  "uppercasemapping", "urs", "verticalorientation", "vo", "xonfc", "xonfd", "xonfkc", "xonfkd"]

/-- A name as it is looked up: in small letters, without blanks, hyphens and underscores, and
without a leading `is`, unless it is the short name of one that begins so. -/
def normal (name : Text) : Text :=
  let lower := name.map Char.toLower
  let startsWithIs := "is".toList.isPrefixOf lower
  let bare := (if startsWithIs then lower.drop 2 else lower).filter fun c =>
    c.toNat < 0x80 && c ∉ [' ', '_', '-']
  if startsWithIs ∧ bare = ['c'] then "isc".toList else bare

def isOneOf (name : Text) (names : List String) : Bool :=
  names.any (·.toList = name)

def categoryFirst : List String :=
  ["cf", "lc", "sc"]

def find : Query → Except Problem CharSet
  | .property name =>
    let name := normal name
    let isOther := !isOneOf name categoryFirst &&
      (isOneOf name otherNames || (named? name valued).isSome)
    match if isOther then none else named? name (traits ++ categories ++ scriptSets) with
    | some set => .ok set
    | none =>
      if !isOther && isOneOf name (emptyCategories ++ emptyScripts) then
        .error .propertyValueUnknown
      else .error .propertyUnknown
  | .value name value =>
    let name := normal name
    match named? name valued with
    | some entries =>
      match named? (normal value) entries with
      | some set => .ok set
      | none => .error .propertyValueUnknown
    | none =>
      if isOneOf name otherNames || (named? name traits).isSome then
        .error .propertyValueUnknown
      else .error .propertyUnknown

end Property

end WorkerLint.Regex
