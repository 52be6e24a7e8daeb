import WorkerLint.Regex.Property.Trait
import WorkerLint.Text.Script

namespace WorkerLint.Regex.Property

open CharSet (union diff single)

def named? (name : Text) (entries : List (List String × α)) : Option α :=
  (entries.find? fun entry => entry.1.any fun known => known.toList = name).map (·.2)

def scriptSet (name : String) : CharSet :=
  ((named? name.toList scripts).getD #[]).holds

def zeroWidthJoiner : Char := '\u200d'

def zeroWidthGap : CharSet :=
  fun c => c == '\u200b' || c == '\u200c' || c == zeroWidthJoiner

def tags : CharSet :=
  Ranges.holds #[(0xE0020, 0xE007F)]

def reserved : CharSet :=
  diff ignorable assigned

def openSyllable : CharSet :=
  fun c => CharSet.range '\uac00' '\ud7a3' c && (c.toNat - 0xAC00) % 28 == 0

def looseMarks : CharSet :=
  Ranges.holds #[(0x102B, 0x102C), (0x1038, 0x1038), (0x1062, 0x1064), (0x1067, 0x106D),
    (0x1083, 0x1083), (0x1087, 0x108C), (0x108F, 0x108F), (0x109A, 0x109C), (0x1A61, 0x1A61),
    (0x1A63, 0x1A64), (0xAA7B, 0xAA7B), (0xAA7D, 0xAA7D), (0x11720, 0x11721)]

def graphemeBreaks : List (List String × CharSet) := [
  (["cn", "control"], fun c => reserved c ||
    diff (fun c => control c || formatRanges.holds c || c == '\u2028' || c == '\u2029')
      (fun c => c == '\n' || c == '\r' || c == '\u200c' || c == zeroWidthJoiner ||
        numberFrameRanges.holds c || tags c) c),
  (["cr"], single '\r'), (["ex", "extend"], union graphemeExtend skinTone),
  (["l"], Ranges.holds #[(0x1100, 0x115F), (0xA960, 0xA97C)]), (["lf"], single '\n'),
  (["lv"], openSyllable), (["lvt"], diff (CharSet.range '\uac00' '\ud7a3') openSyllable),
  (["pp", "prepend"], union numberFrameRanges.holds (Ranges.holds #[(0xD4E, 0xD4E),
    (0x111C2, 0x111C3), (0x113D1, 0x113D1), (0x1193F, 0x1193F), (0x11941, 0x11941),
    (0x11A3A, 0x11A3A), (0x11A84, 0x11A89), (0x11D46, 0x11D46), (0x11F02, 0x11F02)])),
  (["ri", "regionalindicator"], regionalIndicator),
  (["sm", "spacingmark"], fun c => c == '\u0e33' || c == '\u0eb3' ||
    (spacingMarkRanges.holds c && !graphemeExtend c && !looseMarks c)),
  (["t"], Ranges.holds #[(0x11A8, 0x11FF), (0xD7CB, 0xD7FB)]),
  (["v"], Ranges.holds #[(0x1160, 0x11A7), (0xD7B0, 0xD7C6), (0x16D63, 0x16D63),
    (0x16D67, 0x16D6A)]),
  (["zwj"], single zeroWidthJoiner)]

def wordExtend : CharSet :=
  diff (fun c => graphemeExtend c || spacingMarkRanges.holds c || skinTone c)
    (single zeroWidthJoiner)

def wordKatakana : CharSet :=
  Ranges.holds #[(0x3031, 0x3035), (0x309B, 0x309C), (0x30A0, 0x30FA), (0x30FC, 0x30FF),
    (0x31F0, 0x31FF), (0x32D0, 0x32FE), (0x3300, 0x3357), (0xFF66, 0xFF9D), (0x1AFF0, 0x1AFF3),
    (0x1AFF5, 0x1AFFB), (0x1AFFD, 0x1AFFE), (0x1B000, 0x1B000), (0x1B120, 0x1B122),
    (0x1B155, 0x1B155), (0x1B164, 0x1B167)]

def hebrewLetter : CharSet :=
  fun c => scriptSet "hebrew" c && isLetter c

def unspaced : CharSet :=
  Ranges.holds #[(0x1000, 0x102A), (0x103F, 0x103F), (0x1050, 0x1055), (0x105A, 0x105D),
    (0x1061, 0x1061), (0x1065, 0x1066), (0x106E, 0x1070), (0x1075, 0x1081), (0x108E, 0x108E),
    (0x1780, 0x17B3), (0x17D7, 0x17D7), (0x17DC, 0x17DC), (0x1950, 0x196D), (0x1970, 0x1974),
    (0x1980, 0x19AB), (0x19B0, 0x19C9), (0x1A20, 0x1A54), (0x1AA7, 0x1AA7), (0xA9E0, 0xA9E4),
    (0xA9E6, 0xA9EF), (0xA9FA, 0xA9FE), (0xAA60, 0xAA76), (0xAA7A, 0xAA7A), (0xAA7E, 0xAAAF),
    (0xAAB1, 0xAAB1), (0xAAB5, 0xAAB6), (0xAAB9, 0xAABD), (0xAAC0, 0xAAC0), (0xAAC2, 0xAAC2),
    (0xAADB, 0xAADD), (0x11700, 0x1171A), (0x11740, 0x11746)]

def wordLetter : CharSet :=
  fun c =>
    Ranges.holds #[(0x2C2, 0x2C5), (0x2D2, 0x2D7), (0x2DE, 0x2DF), (0x2E5, 0x2EB), (0x2ED, 0x2ED),
      (0x2EF, 0x2FF), (0x55A, 0x55C), (0x55E, 0x55E), (0x58A, 0x58A), (0x5F3, 0x5F3),
      (0x70F, 0x70F), (0xA708, 0xA716), (0xA720, 0xA721), (0xA789, 0xA78A), (0xAB5B, 0xAB5B)] c ||
    (alphabetic c && !(ideographRanges.holds c || wordKatakana c || hebrewLetter c ||
      wordExtend c || scriptSet "hiragana" c || scriptSet "thai" c || scriptSet "lao" c ||
      unspaced c))

def numeric : CharSet :=
  fun c => isDigit c || numberFrameRanges.holds c && c != '\u070f' || c == '\u066b' ||
    c == '\u19da'

def wordBreaks : List (List String × CharSet) := [
  (["le", "aletter"], wordLetter), (["cr"], single '\r'), (["dq", "doublequote"], single '"'),
  (["extend"], wordExtend), (["ex", "extendnumlet"], union connectorRanges.holds (single '\u202f')),
  (["fo", "format"], diff formatRanges.holds
    fun c => zeroWidthGap c || tags c || numberFrameRanges.holds c && c != '\u070f' ||
      c == '\u070f'),
  (["hl", "hebrewletter"], hebrewLetter), (["ka", "katakana"], wordKatakana), (["lf"], single '\n'),
  (["ml", "midletter"], midLetter),
  (["mn", "midnum"], Ranges.holds #[(0x2C, 0x2C), (0x3B, 0x3B), (0x37E, 0x37E), (0x589, 0x589),
    (0x60C, 0x60D), (0x66C, 0x66C), (0x7F8, 0x7F8), (0x2044, 0x2044), (0xFE50, 0xFE50),
    (0xFE54, 0xFE54), (0xFF0C, 0xFF0C), (0xFF1B, 0xFF1B)]),
  (["mb", "midnumlet"], midNumLet),
  (["nl", "newline"], Ranges.holds #[(0xB, 0xC), (0x85, 0x85), (0x2028, 0x2029)]),
  (["nu", "numeric"], numeric), (["ri", "regionalindicator"], regionalIndicator),
  (["sq", "singlequote"], single '\''),
  (["wsegspace"], diff space fun c => c == '\u00a0' || c == '\u2007' || c == '\u202f'),
  (["zwj"], single zeroWidthJoiner)]

def fullStop : CharSet :=
  Ranges.holds #[(0x2E, 0x2E), (0x2024, 0x2024), (0xFE52, 0xFE52), (0xFF0E, 0xFF0E)]

def georgianSmall : CharSet :=
  Ranges.holds #[(0x10D0, 0x10FA), (0x10FD, 0x10FF)]

def georgianCapital : CharSet :=
  Ranges.holds #[(0x1C90, 0x1CBA), (0x1CBD, 0x1CBF)]

def sentenceLower : CharSet :=
  diff lowercase (union graphemeExtend georgianSmall)

def sentenceUpper : CharSet :=
  diff (union uppercase titleRanges.holds) georgianCapital

def sentenceExtend : CharSet :=
  fun c => graphemeExtend c || spacingMarkRanges.holds c || c == zeroWidthJoiner

def sentenceBreaks : List (List String × CharSet) := [
  (["at", "aterm"], fullStop),
  (["cl", "close"], union (Ranges.holds #[(0x275B, 0x2760), (0x2E00, 0x2E01), (0x2E06, 0x2E08),
      (0x2E0B, 0x2E0B), (0x1F676, 0x1F678)])
    (diff (fun c => openRanges.holds c || closeRanges.holds c || openQuoteRanges.holds c ||
      closeQuoteRanges.holds c || quoteRanges.holds c) fun c => c == '\uff02' || c == '\uff07')),
  (["cr"], single '\r'), (["ex", "extend"], sentenceExtend),
  (["fo", "format"], diff formatRanges.holds fun c => c == '\u200c' || c == zeroWidthJoiner ||
    tags c || numberFrameRanges.holds c && c != '\u070f'),
  (["le", "oletter"], fun c => c == '\u05f3' ||
    (alphabetic c && !(sentenceLower c || sentenceUpper c || sentenceExtend c))),
  (["lf"], single '\n'), (["lo", "lower"], sentenceLower),
  (["nu", "numeric"], union numeric (single '\u066c')),
  (["sc", "scontinue"], Ranges.holds #[(0x2C, 0x2D), (0x3A, 0x3B), (0x37E, 0x37E), (0x55D, 0x55D),
    (0x60C, 0x60D), (0x7F8, 0x7F8), (0x1802, 0x1802), (0x1808, 0x1808), (0x2013, 0x2014),
    (0x3001, 0x3001), (0xFE10, 0xFE11), (0xFE13, 0xFE14), (0xFE31, 0xFE32), (0xFE50, 0xFE51),
    (0xFE54, 0xFE55), (0xFE58, 0xFE58), (0xFE63, 0xFE63), (0xFF0C, 0xFF0D), (0xFF1A, 0xFF1B),
    (0xFF64, 0xFF64)]),
  (["se", "sep"], Ranges.holds #[(0x85, 0x85), (0x2028, 0x2029)]),
  (["sp"], diff isBlank (Ranges.holds #[(0xA, 0xA), (0xD, 0xD), (0x85, 0x85), (0x2028, 0x2029)])),
  (["st", "sterm"], diff sentenceEndRanges.holds fullStop), (["up", "upper"], sentenceUpper)]

end WorkerLint.Regex.Property
