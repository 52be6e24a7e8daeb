import WorkerLint.Regex.CharSet

namespace WorkerLint.Regex.Property

open CharSet (union diff)

def control : CharSet :=
  fun c => c < ' ' || (0x7F ≤ c.toNat && c.toNat ≤ 0x9F)

def privateUse : CharSet :=
  Ranges.holds #[(0xE000, 0xF8FF), (0xF0000, 0xFFFFD), (0x100000, 0x10FFFD)]

def space : CharSet :=
  Ranges.holds #[(0x20, 0x20), (0xA0, 0xA0), (0x1680, 0x1680), (0x2000, 0x200A), (0x202F, 0x202F),
    (0x205F, 0x205F), (0x3000, 0x3000)]

def separator : CharSet :=
  fun c => space c || c == '\u2028' || c == '\u2029'

def cased : CharSet :=
  fun c => isCapital c || isSmall c || titleRanges.holds c

def assigned : CharSet :=
  fun c => isLetter c || isMark c || isNumber c || punctuationRanges.holds c ||
    symbolRanges.holds c || separator c || control c || formatRanges.holds c || privateUse c

def nonspacingMark : CharSet :=
  diff isMark (union spacingMarkRanges.holds enclosingMarkRanges.holds)

def categories : List (List String × CharSet) := [
  (["any"], fun _ => true), (["assigned"], assigned), (["ascii"], CharSet.ascii),
  (["l", "letter"], isLetter), (["lc", "casedletter"], cased),
  (["lu", "uppercaseletter"], isCapital), (["ll", "lowercaseletter"], isSmall),
  (["lt", "titlecaseletter"], titleRanges.holds),
  (["lm", "modifierletter"], modifierRanges.holds),
  (["lo", "otherletter"], diff isLetter (union cased modifierRanges.holds)),
  (["m", "mark", "combiningmark"], isMark),
  (["mn", "nonspacingmark"], nonspacingMark),
  (["mc", "spacingmark"], spacingMarkRanges.holds),
  (["me", "enclosingmark"], enclosingMarkRanges.holds),
  (["n", "number"], isNumber), (["nd", "decimalnumber", "digit"], isDigit),
  (["nl", "letternumber"], letterNumberRanges.holds),
  (["no", "othernumber"], otherNumberRanges.holds),
  (["p", "punctuation", "punct"], punctuationRanges.holds),
  (["pc", "connectorpunctuation"], connectorRanges.holds),
  (["pd", "dashpunctuation"], dashRanges.holds),
  (["ps", "openpunctuation"], openRanges.holds),
  (["pe", "closepunctuation"], closeRanges.holds),
  (["pi", "initialpunctuation"], openQuoteRanges.holds),
  (["pf", "finalpunctuation"], closeQuoteRanges.holds),
  (["po", "otherpunctuation"],
    diff punctuationRanges.holds fun c => connectorRanges.holds c || dashRanges.holds c ||
      openRanges.holds c || closeRanges.holds c || openQuoteRanges.holds c ||
      closeQuoteRanges.holds c),
  (["s", "symbol"], symbolRanges.holds), (["sm", "mathsymbol"], mathRanges.holds),
  (["sc", "currencysymbol"], currencyRanges.holds),
  (["sk", "modifiersymbol"], modifierSymbolRanges.holds),
  (["so", "othersymbol"],
    diff symbolRanges.holds fun c => mathRanges.holds c || currencyRanges.holds c ||
      modifierSymbolRanges.holds c),
  (["z", "separator"], separator), (["zs", "spaceseparator"], space),
  (["zl", "lineseparator"], CharSet.single '\u2028'),
  (["zp", "paragraphseparator"], CharSet.single '\u2029'),
  (["c", "other"],
    fun c => control c || formatRanges.holds c || privateUse c || !assigned c),
  (["cc", "control", "cntrl"], control), (["cf", "format"], formatRanges.holds),
  (["co", "privateuse"], privateUse),
  (["cn", "unassigned"], CharSet.compl assigned)]

def emptyCategories : List String :=
  ["cs", "surrogate"]

end WorkerLint.Regex.Property
