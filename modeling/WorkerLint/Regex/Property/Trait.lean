import WorkerLint.Regex.Property.Category
import WorkerLint.Text.Trait

namespace WorkerLint.Regex.Property

open CharSet (union diff)

def lowercase : CharSet :=
  union isSmall otherLowerRanges.holds

def uppercase : CharSet :=
  union isCapital otherUpperRanges.holds

def otherAlphabetic : CharSet :=
  union vowelMarkRanges.holds letterlikeRanges.holds

def alphabetic : CharSet :=
  fun c => isLetter c || letterNumberRanges.holds c || otherAlphabetic c || lowercase c ||
    uppercase c

def midLetter : CharSet :=
  Ranges.holds #[(0x3A, 0x3A), (0xB7, 0xB7), (0x387, 0x387), (0x55F, 0x55F), (0x5F4, 0x5F4),
    (0x2027, 0x2027), (0xFE13, 0xFE13), (0xFE55, 0xFE55), (0xFF1A, 0xFF1A)]

def midNumLet : CharSet :=
  Ranges.holds #[(0x2E, 0x2E), (0x2018, 0x2019), (0x2024, 0x2024), (0xFE52, 0xFE52),
    (0xFF07, 0xFF07), (0xFF0E, 0xFF0E)]

def caseIgnorable : CharSet :=
  fun c => nonspacingMark c || enclosingMarkRanges.holds c || formatRanges.holds c ||
    modifierRanges.holds c || modifierSymbolRanges.holds c || midLetter c || midNumLet c ||
    c == '\''

def isPatternChar : CharSet :=
  union patternSignRanges.holds patternBlankRanges.holds

def nameStart : CharSet :=
  diff (fun c => isLetter c || letterNumberRanges.holds c || otherStartRanges.holds c)
    isPatternChar

def nameGoOn : CharSet :=
  diff (fun c => nameStart c || nonspacingMark c || spacingMarkRanges.holds c || isDigit c ||
    connectorRanges.holds c || otherGoOnRanges.holds c) isPatternChar

def graphemeExtend : CharSet :=
  fun c => enclosingMarkRanges.holds c || nonspacingMark c || otherExtendRanges.holds c

def graphemeBase : CharSet :=
  diff assigned fun c => control c || formatRanges.holds c || privateUse c || c == '\u2028' ||
    c == '\u2029' || graphemeExtend c

def ignorable : CharSet :=
  diff (fun c => otherIgnorableRanges.holds c || formatRanges.holds c || variationRanges.holds c)
    fun c => isBlank c || numberFrameRanges.holds c ||
      Ranges.holds #[(0xFFF9, 0xFFFB), (0x13430, 0x1343F)] c

def skinTone : CharSet :=
  Ranges.holds #[(0x1F3FB, 0x1F3FF)]

def regionalIndicator : CharSet :=
  Ranges.holds #[(0x1F1E6, 0x1F1FF)]

def changesLowercased : CharSet :=
  diff (union uppercase titleRanges.holds) noSmallRanges.holds

def changesUppercased : CharSet :=
  diff (union lowercase titleRanges.holds) noCapitalRanges.holds

def changesTitlecased : CharSet :=
  diff (union changesUppercased titleFormRanges.holds) noTitleRanges.holds

def changesCasefolded : CharSet :=
  diff (union changesLowercased foldedRanges.holds) unfoldedRanges.holds

def traits : List (List String × CharSet) := [
  (["ahex", "asciihexdigit"],
    fun c => c.isDigit || CharSet.range 'a' 'f' c || CharSet.range 'A' 'F' c),
  (["alpha", "alphabetic"], alphabetic), (["bidic", "bidicontrol"], bidiControlRanges.holds),
  (["bidim", "bidimirrored"], mirroredRanges.holds), (["ci", "caseignorable"], caseIgnorable),
  (["cased"], fun c => lowercase c || uppercase c || titleRanges.holds c),
  (["cwcf", "changeswhencasefolded"], changesCasefolded),
  (["cwcm", "changeswhencasemapped"],
    fun c => changesLowercased c || changesUppercased c || changesTitlecased c),
  (["cwl", "changeswhenlowercased"], changesLowercased),
  (["cwt", "changeswhentitlecased"], changesTitlecased),
  (["cwu", "changeswhenuppercased"], changesUppercased), (["dash"], dashSignRanges.holds),
  (["di", "defaultignorablecodepoint"], ignorable),
  (["dep", "deprecated"], deprecatedRanges.holds), (["dia", "diacritic"], diacriticRanges.holds),
  (["emoji"], emojiRanges.holds), (["ecomp", "emojicomponent"], emojiPartRanges.holds),
  (["emod", "emojimodifier"], skinTone), (["ebase", "emojimodifierbase"], emojiBaseRanges.holds),
  (["epres", "emojipresentation"], emojiShownRanges.holds),
  (["extpict", "extendedpictographic"], pictographRanges.holds),
  (["ext", "extender"], extenderRanges.holds), (["grbase", "graphemebase"], graphemeBase),
  (["grext", "graphemeextend"], graphemeExtend), (["grlink", "graphemelink"], linkRanges.holds),
  (["hex", "hexdigit"], hexDigitRanges.holds), (["hyphen"], hyphenRanges.holds),
  (["idsb", "idsbinaryoperator"],
    Ranges.holds #[(0x2FF0, 0x2FF1), (0x2FF4, 0x2FFD), (0x31EF, 0x31EF)]),
  (["idst", "idstrinaryoperator"], CharSet.range '\u2ff2' '\u2ff3'),
  (["idsu", "idsunaryoperator"], CharSet.range '\u2ffe' '\u2fff'),
  (["idcompatmathcontinue"], mathGoOnRanges.holds),
  (["idcompatmathstart"], mathStartRanges.holds), (["idc", "idcontinue"], nameGoOn),
  (["ids", "idstart"], nameStart), (["ideo", "ideographic"], ideographRanges.holds),
  (["joinc", "joincontrol"], fun c => c == '\u200c' || c == '\u200d'),
  (["loe", "logicalorderexception"], visualOrderRanges.holds), (["lower", "lowercase"], lowercase),
  (["math"], union mathRanges.holds otherMathRanges.holds),
  (["mcm", "modifiercombiningmark"], combiningModifierRanges.holds),
  (["nchar", "noncharactercodepoint"], nonCharacterRanges.holds),
  (["oalpha", "otheralphabetic"], otherAlphabetic),
  (["odi", "otherdefaultignorablecodepoint"], otherIgnorableRanges.holds),
  (["ogrext", "othergraphemeextend"], otherExtendRanges.holds),
  (["oidc", "otheridcontinue"], otherGoOnRanges.holds),
  (["oids", "otheridstart"], otherStartRanges.holds),
  (["olower", "otherlowercase"], otherLowerRanges.holds),
  (["omath", "othermath"], otherMathRanges.holds),
  (["oupper", "otheruppercase"], otherUpperRanges.holds),
  (["patsyn", "patternsyntax"], patternSignRanges.holds),
  (["patws", "patternwhitespace"], patternBlankRanges.holds),
  (["pcm", "prependedconcatenationmark"], numberFrameRanges.holds),
  (["qmark", "quotationmark"], quoteRanges.holds), (["radical"], radicalRanges.holds),
  (["ri", "regionalindicator"], regionalIndicator),
  (["sterm", "sentenceterminal"], sentenceEndRanges.holds),
  (["sd", "softdotted"], softDotRanges.holds),
  (["term", "terminalpunctuation"], phraseEndRanges.holds),
  (["uideo", "unifiedideograph"], unifiedRanges.holds), (["upper", "uppercase"], uppercase),
  (["vs", "variationselector"], variationRanges.holds),
  (["space", "whitespace", "wspace"], isBlank),
  (["xidc", "xidcontinue"], diff nameGoOn startOnlyRanges.holds),
  (["xids", "xidstart"], diff nameStart (union startOnlyRanges.holds lateVowelRanges.holds))]

end WorkerLint.Regex.Property
