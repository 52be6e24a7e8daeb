import WorkerLint.Text.Ranges

namespace WorkerLint

def adlamUses : Ranges := #[
  (0x61F, 0x61F), (0x640, 0x640), (0x204F, 0x204F), (0x2E41, 0x2E41)]

def arabicUses : Ranges := #[
  (0x60C, 0x60C), (0x61B, 0x61B), (0x61F, 0x61F), (0x640, 0x640), (0x64B, 0x655), (0x670, 0x670),
  (0x204F, 0x204F), (0x2E41, 0x2E41), (0xFD3E, 0xFD3F), (0x102E0, 0x102FB)]

def armenianUses : Ranges := #[
  (0x308, 0x308)]

def avestanUses : Ranges := #[
  (0xB7, 0xB7), (0x2E30, 0x2E31)]

def bengaliUses : Ranges := #[
  (0x2BC, 0x2BC), (0x951, 0x952), (0x964, 0x965), (0x1CD0, 0x1CD0), (0x1CD2, 0x1CD2),
  (0x1CD5, 0x1CD6), (0x1CD8, 0x1CD8), (0x1CE1, 0x1CE1), (0x1CEA, 0x1CEA), (0x1CED, 0x1CED),
  (0x1CF2, 0x1CF2), (0x1CF5, 0x1CF7), (0xA8F1, 0xA8F1)]

def bopomofoUses : Ranges := #[
  (0x2C7, 0x2C7), (0x2C9, 0x2CB), (0x2D9, 0x2D9), (0x3001, 0x3003), (0x3008, 0x3011),
  (0x3013, 0x301F), (0x302A, 0x302D), (0x3030, 0x3030), (0x3037, 0x3037), (0x30FB, 0x30FB),
  (0xFE45, 0xFE46), (0xFF61, 0xFF65)]

def bugineseUses : Ranges := #[
  (0xA9CF, 0xA9CF)]

def buhidUses : Ranges := #[
  (0x1735, 0x1736)]

def carianUses : Ranges := #[
  (0xB7, 0xB7), (0x205A, 0x205A), (0x205D, 0x205D), (0x2E31, 0x2E31)]

def caucasianAlbanianUses : Ranges := #[
  (0x304, 0x304), (0x331, 0x331), (0x35E, 0x35E)]

def chakmaUses : Ranges := #[
  (0x9E6, 0x9EF), (0x1040, 0x1049)]

def cherokeeUses : Ranges := #[
  (0x300, 0x302), (0x304, 0x304), (0x30B, 0x30C), (0x323, 0x324), (0x330, 0x331)]

def copticUses : Ranges := #[
  (0xB7, 0xB7), (0x300, 0x300), (0x304, 0x305), (0x307, 0x307), (0x374, 0x375), (0x2E17, 0x2E17),
  (0x102E0, 0x102FB)]

def cypriotUses : Ranges := #[
  (0x10100, 0x10102), (0x10107, 0x10133), (0x10137, 0x1013F)]

def cyproMinoanUses : Ranges := #[
  (0x10100, 0x10101)]

def cyrillicUses : Ranges := #[
  (0x2BC, 0x2BC), (0x300, 0x302), (0x304, 0x304), (0x306, 0x306), (0x308, 0x308), (0x30B, 0x30B),
  (0x311, 0x311), (0x485, 0x486), (0x1DF8, 0x1DF8), (0x2E43, 0x2E43)]

def devanagariUses : Ranges := #[
  (0x2BC, 0x2BC), (0x951, 0x952), (0x964, 0x965), (0x1CD0, 0x1CF6), (0x1CF8, 0x1CF9),
  (0x20F0, 0x20F0), (0xA830, 0xA839)]

def dograUses : Ranges := #[
  (0x964, 0x96F), (0xA830, 0xA839)]

def duployanUses : Ranges := #[
  (0xB7, 0xB7), (0x307, 0x308), (0x30A, 0x30A), (0x323, 0x324), (0x2E3C, 0x2E3C),
  (0x1BCA0, 0x1BCA3)]

def elbasanUses : Ranges := #[
  (0xB7, 0xB7), (0x305, 0x305)]

def ethiopicUses : Ranges := #[
  (0x30E, 0x30E)]

def garayUses : Ranges := #[
  (0x60C, 0x60C), (0x61B, 0x61B), (0x61F, 0x61F)]

def georgianUses : Ranges := #[
  (0xB7, 0xB7), (0x589, 0x589), (0x10FB, 0x10FB), (0x205A, 0x205A), (0x2E31, 0x2E31)]

def glagoliticUses : Ranges := #[
  (0xB7, 0xB7), (0x303, 0x303), (0x305, 0x305), (0x484, 0x484), (0x487, 0x487), (0x589, 0x589),
  (0x10FB, 0x10FB), (0x205A, 0x205A), (0x2E43, 0x2E43), (0xA66F, 0xA66F)]

def gothicUses : Ranges := #[
  (0xB7, 0xB7), (0x304, 0x305), (0x308, 0x308), (0x331, 0x331)]

def granthaUses : Ranges := #[
  (0x951, 0x952), (0x964, 0x965), (0xBE6, 0xBF3), (0x1CD0, 0x1CD0), (0x1CD2, 0x1CD3),
  (0x1CF2, 0x1CF4), (0x1CF8, 0x1CF9), (0x20F0, 0x20F0), (0x1133B, 0x1133B), (0x11FD0, 0x11FD1),
  (0x11FD3, 0x11FD3)]

def greekUses : Ranges := #[
  (0xB7, 0xB7), (0x300, 0x301), (0x304, 0x304), (0x306, 0x306), (0x308, 0x308), (0x313, 0x313),
  (0x342, 0x342), (0x345, 0x345), (0x374, 0x374), (0x1DC0, 0x1DC1), (0x205D, 0x205D)]

def gujaratiUses : Ranges := #[
  (0x951, 0x952), (0x964, 0x965), (0xA830, 0xA839)]

def gunjalaGondiUses : Ranges := #[
  (0xB7, 0xB7), (0x964, 0x965)]

def gurmukhiUses : Ranges := #[
  (0x951, 0x952), (0x964, 0x965), (0xA830, 0xA839)]

def gurungKhemaUses : Ranges := #[
  (0x965, 0x965)]

def hanUses : Ranges := #[
  (0xB7, 0xB7), (0x2FF0, 0x2FFF), (0x3001, 0x3003), (0x3006, 0x3006), (0x3008, 0x3011),
  (0x3013, 0x301F), (0x302A, 0x302D), (0x3030, 0x3030), (0x3037, 0x3037), (0x303C, 0x303F),
  (0x30FB, 0x30FB), (0x3190, 0x319F), (0x31C0, 0x31E5), (0x31EF, 0x31EF), (0x3220, 0x3247),
  (0x3280, 0x32B0), (0x32C0, 0x32CB), (0x32FF, 0x32FF), (0x3358, 0x3370), (0x337B, 0x337F),
  (0x33E0, 0x33FE), (0xA700, 0xA707), (0xFE45, 0xFE46), (0xFF61, 0xFF65), (0x1D360, 0x1D371),
  (0x1F250, 0x1F251)]

def hangulUses : Ranges := #[
  (0x3001, 0x3003), (0x3008, 0x3011), (0x3013, 0x301F), (0x3030, 0x3030), (0x3037, 0x3037),
  (0x30FB, 0x30FB), (0xFE45, 0xFE46), (0xFF61, 0xFF65)]

def hanifiRohingyaUses : Ranges := #[
  (0x60C, 0x60C), (0x61B, 0x61B), (0x61F, 0x61F), (0x640, 0x640), (0x6D4, 0x6D4)]

def hanunooUses : Ranges := #[
  (0x1735, 0x1736)]

def hebrewUses : Ranges := #[
  (0x307, 0x308)]

def hiraganaUses : Ranges := #[
  (0x3001, 0x3003), (0x3008, 0x3011), (0x3013, 0x301F), (0x3030, 0x3035), (0x3037, 0x3037),
  (0x303C, 0x303D), (0x3099, 0x309C), (0x30A0, 0x30A0), (0x30FB, 0x30FC), (0xFE45, 0xFE46),
  (0xFF61, 0xFF65), (0xFF70, 0xFF70), (0xFF9E, 0xFF9F)]

def javaneseUses : Ranges := #[
  (0xA9CF, 0xA9CF)]

def kaithiUses : Ranges := #[
  (0x966, 0x96F), (0x2E31, 0x2E31), (0xA830, 0xA839)]

def kannadaUses : Ranges := #[
  (0x951, 0x952), (0x964, 0x965), (0x1CD0, 0x1CD0), (0x1CD2, 0x1CD3), (0x1CDA, 0x1CDA),
  (0x1CF2, 0x1CF2), (0x1CF4, 0x1CF4), (0xA830, 0xA835)]

def katakanaUses : Ranges := #[
  (0x305, 0x305), (0x323, 0x323), (0x3001, 0x3003), (0x3008, 0x3011), (0x3013, 0x301F),
  (0x3030, 0x3035), (0x3037, 0x3037), (0x303C, 0x303D), (0x3099, 0x309C), (0x30A0, 0x30A0),
  (0x30FB, 0x30FC), (0xFE45, 0xFE46), (0xFF61, 0xFF65), (0xFF70, 0xFF70), (0xFF9E, 0xFF9F)]

def kayahLiUses : Ranges := #[
  (0xA92E, 0xA92E)]

def khojkiUses : Ranges := #[
  (0xAE6, 0xAEF), (0xA830, 0xA839)]

def khudawadiUses : Ranges := #[
  (0x964, 0x965), (0xA830, 0xA839)]

def latinUses : Ranges := #[
  (0xB7, 0xB7), (0x2BC, 0x2BC), (0x2C7, 0x2C7), (0x2C9, 0x2CB), (0x2CD, 0x2CD), (0x2D7, 0x2D7),
  (0x2D9, 0x2D9), (0x300, 0x30E), (0x310, 0x311), (0x313, 0x313), (0x320, 0x320), (0x323, 0x325),
  (0x32D, 0x32E), (0x330, 0x331), (0x358, 0x358), (0x35E, 0x35E), (0x363, 0x36F), (0x485, 0x486),
  (0x951, 0x952), (0x10FB, 0x10FB), (0x1DF8, 0x1DF8), (0x202F, 0x202F), (0x20F0, 0x20F0),
  (0x2E17, 0x2E17), (0xA700, 0xA707), (0xA92E, 0xA92E)]

def limbuUses : Ranges := #[
  (0x965, 0x965)]

def linearAUses : Ranges := #[
  (0x10107, 0x10133)]

def linearBUses : Ranges := #[
  (0x10100, 0x10102), (0x10107, 0x10133), (0x10137, 0x1013F)]

def lisuUses : Ranges := #[
  (0x2BC, 0x2BC), (0x2CD, 0x2CD), (0x300A, 0x300B)]

def lycianUses : Ranges := #[
  (0x205A, 0x205A)]

def lydianUses : Ranges := #[
  (0xB7, 0xB7), (0x2E31, 0x2E31)]

def mahajaniUses : Ranges := #[
  (0xB7, 0xB7), (0x964, 0x96F), (0xA830, 0xA839)]

def malayalamUses : Ranges := #[
  (0x951, 0x952), (0x964, 0x965), (0x1CDA, 0x1CDA), (0x1CF2, 0x1CF2), (0xA830, 0xA832)]

def mandaicUses : Ranges := #[
  (0x640, 0x640)]

def manichaeanUses : Ranges := #[
  (0x640, 0x640)]

def masaramGondiUses : Ranges := #[
  (0x964, 0x965)]

def meroiticHieroglyphsUses : Ranges := #[
  (0x205D, 0x205D)]

def modiUses : Ranges := #[
  (0xA830, 0xA839)]

def mongolianUses : Ranges := #[
  (0x1802, 0x1803), (0x1805, 0x1805), (0x202F, 0x202F), (0x3001, 0x3002), (0x3008, 0x300B)]

def multaniUses : Ranges := #[
  (0xA66, 0xA6F)]

def myanmarUses : Ranges := #[
  (0xA92E, 0xA92E)]

def nandinagariUses : Ranges := #[
  (0x964, 0x965), (0xCE6, 0xCEF), (0x1CE9, 0x1CE9), (0x1CF2, 0x1CF2), (0x1CFA, 0x1CFA),
  (0xA830, 0xA835)]

def nkoUses : Ranges := #[
  (0x60C, 0x60C), (0x61B, 0x61B), (0x61F, 0x61F), (0xFD3E, 0xFD3F)]

def olOnalUses : Ranges := #[
  (0x964, 0x965)]

def oldHungarianUses : Ranges := #[
  (0x205A, 0x205A), (0x205D, 0x205D), (0x2E31, 0x2E31), (0x2E41, 0x2E41)]

def oldPermicUses : Ranges := #[
  (0xB7, 0xB7), (0x300, 0x300), (0x306, 0x308), (0x313, 0x313), (0x483, 0x483)]

def oldTurkicUses : Ranges := #[
  (0x205A, 0x205A), (0x2E30, 0x2E30)]

def oldUyghurUses : Ranges := #[
  (0x640, 0x640), (0x10AF2, 0x10AF2)]

def oriyaUses : Ranges := #[
  (0x951, 0x952), (0x964, 0x965), (0x1CDA, 0x1CDA), (0x1CF2, 0x1CF2)]

def osageUses : Ranges := #[
  (0x301, 0x301), (0x304, 0x304), (0x30B, 0x30B), (0x358, 0x358)]

def phagsPaUses : Ranges := #[
  (0x1802, 0x1803), (0x1805, 0x1805), (0x202F, 0x202F), (0x3002, 0x3002)]

def psalterPahlaviUses : Ranges := #[
  (0x640, 0x640)]

def runicUses : Ranges := #[
  (0x16EB, 0x16ED)]

def samaritanUses : Ranges := #[
  (0x2E31, 0x2E31)]

def sharadaUses : Ranges := #[
  (0x951, 0x951), (0x1CD7, 0x1CD7), (0x1CD9, 0x1CD9), (0x1CDC, 0x1CDD), (0x1CE0, 0x1CE0),
  (0xA830, 0xA835), (0xA838, 0xA838)]

def shavianUses : Ranges := #[
  (0xB7, 0xB7)]

def sinhalaUses : Ranges := #[
  (0x964, 0x965), (0x1CF2, 0x1CF2)]

def sogdianUses : Ranges := #[
  (0x640, 0x640)]

def sunuwarUses : Ranges := #[
  (0x300, 0x301), (0x303, 0x303), (0x30D, 0x30D), (0x310, 0x310), (0x32D, 0x32D), (0x331, 0x331)]

def sylotiNagriUses : Ranges := #[
  (0x964, 0x965), (0x9E6, 0x9EF)]

def syriacUses : Ranges := #[
  (0x303, 0x304), (0x307, 0x308), (0x30A, 0x30A), (0x320, 0x320), (0x323, 0x325), (0x32D, 0x32E),
  (0x330, 0x330), (0x60C, 0x60C), (0x61B, 0x61C), (0x61F, 0x61F), (0x640, 0x640), (0x64B, 0x655),
  (0x670, 0x670), (0x1DF8, 0x1DF8), (0x1DFA, 0x1DFA)]

def tagalogUses : Ranges := #[
  (0x1735, 0x1736)]

def tagbanwaUses : Ranges := #[
  (0x1735, 0x1736)]

def taiLeUses : Ranges := #[
  (0x300, 0x301), (0x307, 0x308), (0x30C, 0x30C), (0x1040, 0x1049)]

def takriUses : Ranges := #[
  (0x964, 0x965), (0xA830, 0xA839)]

def tamilUses : Ranges := #[
  (0x951, 0x952), (0x964, 0x965), (0x1CDA, 0x1CDA), (0xA8F3, 0xA8F3), (0x11301, 0x11301),
  (0x11303, 0x11303), (0x1133B, 0x1133C)]

def tangutUses : Ranges := #[
  (0x2FF0, 0x2FFF), (0x31EF, 0x31EF)]

def teluguUses : Ranges := #[
  (0x951, 0x952), (0x964, 0x965), (0x1CDA, 0x1CDA), (0x1CF2, 0x1CF2)]

def thaanaUses : Ranges := #[
  (0x60C, 0x60C), (0x61B, 0x61C), (0x61F, 0x61F), (0x660, 0x669), (0xFDF2, 0xFDF2),
  (0xFDFD, 0xFDFD)]

def thaiUses : Ranges := #[
  (0x2BC, 0x2BC), (0x2D7, 0x2D7), (0x303, 0x303), (0x331, 0x331)]

def tibetanUses : Ranges := #[
  (0x3008, 0x300B)]

def tifinaghUses : Ranges := #[
  (0x302, 0x302), (0x304, 0x304), (0x307, 0x307), (0x309, 0x309)]

def tirhutaUses : Ranges := #[
  (0x951, 0x952), (0x964, 0x965), (0x1CF2, 0x1CF2), (0xA830, 0xA839)]

def todhriUses : Ranges := #[
  (0x301, 0x301), (0x304, 0x304), (0x307, 0x307), (0x311, 0x311), (0x313, 0x313), (0x35E, 0x35E)]

def totoUses : Ranges := #[
  (0x2BC, 0x2BC)]

def tuluTigalariUses : Ranges := #[
  (0xCE6, 0xCEF), (0x1CF2, 0x1CF2), (0x1CF4, 0x1CF4), (0xA830, 0xA835), (0xA8F1, 0xA8F1)]

def yezidiUses : Ranges := #[
  (0x60C, 0x60C), (0x61B, 0x61B), (0x61F, 0x61F), (0x660, 0x669)]

def yiUses : Ranges := #[
  (0x3001, 0x3002), (0x3008, 0x3011), (0x3014, 0x301B), (0x30FB, 0x30FB), (0xFF61, 0xFF65)]

/-- The characters that a script uses besides its own. -/
def scriptUses : List (String × Ranges) := [
  ("adlam", adlamUses), ("arabic", arabicUses), ("armenian", armenianUses),
  ("avestan", avestanUses), ("bengali", bengaliUses), ("bopomofo", bopomofoUses),
  ("buginese", bugineseUses), ("buhid", buhidUses), ("carian", carianUses),
  ("caucasianalbanian", caucasianAlbanianUses), ("chakma", chakmaUses), ("cherokee", cherokeeUses),
  ("coptic", copticUses), ("cypriot", cypriotUses), ("cyprominoan", cyproMinoanUses),
  ("cyrillic", cyrillicUses), ("devanagari", devanagariUses), ("dogra", dograUses),
  ("duployan", duployanUses), ("elbasan", elbasanUses), ("ethiopic", ethiopicUses),
  ("garay", garayUses), ("georgian", georgianUses), ("glagolitic", glagoliticUses),
  ("gothic", gothicUses), ("grantha", granthaUses), ("greek", greekUses),
  ("gujarati", gujaratiUses), ("gunjalagondi", gunjalaGondiUses), ("gurmukhi", gurmukhiUses),
  ("gurungkhema", gurungKhemaUses), ("han", hanUses), ("hangul", hangulUses),
  ("hanifirohingya", hanifiRohingyaUses), ("hanunoo", hanunooUses), ("hebrew", hebrewUses),
  ("hiragana", hiraganaUses), ("javanese", javaneseUses), ("kaithi", kaithiUses),
  ("kannada", kannadaUses), ("katakana", katakanaUses), ("kayahli", kayahLiUses),
  ("khojki", khojkiUses), ("khudawadi", khudawadiUses), ("latin", latinUses), ("limbu", limbuUses),
  ("lineara", linearAUses), ("linearb", linearBUses), ("lisu", lisuUses), ("lycian", lycianUses),
  ("lydian", lydianUses), ("mahajani", mahajaniUses), ("malayalam", malayalamUses),
  ("mandaic", mandaicUses), ("manichaean", manichaeanUses), ("masaramgondi", masaramGondiUses),
  ("meroitichieroglyphs", meroiticHieroglyphsUses), ("modi", modiUses),
  ("mongolian", mongolianUses), ("multani", multaniUses), ("myanmar", myanmarUses),
  ("nandinagari", nandinagariUses), ("nko", nkoUses), ("olonal", olOnalUses),
  ("oldhungarian", oldHungarianUses), ("oldpermic", oldPermicUses), ("oldturkic", oldTurkicUses),
  ("olduyghur", oldUyghurUses), ("oriya", oriyaUses), ("osage", osageUses),
  ("phagspa", phagsPaUses), ("psalterpahlavi", psalterPahlaviUses), ("runic", runicUses),
  ("samaritan", samaritanUses), ("sharada", sharadaUses), ("shavian", shavianUses),
  ("sinhala", sinhalaUses), ("sogdian", sogdianUses), ("sunuwar", sunuwarUses),
  ("sylotinagri", sylotiNagriUses), ("syriac", syriacUses), ("tagalog", tagalogUses),
  ("tagbanwa", tagbanwaUses), ("taile", taiLeUses), ("takri", takriUses), ("tamil", tamilUses),
  ("tangut", tangutUses), ("telugu", teluguUses), ("thaana", thaanaUses), ("thai", thaiUses),
  ("tibetan", tibetanUses), ("tifinagh", tifinaghUses), ("tirhuta", tirhutaUses),
  ("todhri", todhriUses), ("toto", totoUses), ("tulutigalari", tuluTigalariUses),
  ("yezidi", yezidiUses), ("yi", yiUses)]

end WorkerLint
