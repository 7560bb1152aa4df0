/-!
# Scripts

The scripts in which the assigned characters are written, by codes of four letters. What is common
to several scripts, and what is inherited from the character before, are scripts of their own; that
a character is used in certain scripts only is listed apart.
-/

namespace TypedCollections

namespace Text

/-- The names of each script, the code first. -/
def scriptNames : List (List String) := [
    ["adlm", "adlam"], ["aghb", "caucasianalbanian"], ["ahom"], ["arab", "arabic"],
    ["armi", "imperialaramaic"], ["armn", "armenian"], ["avst", "avestan"], ["bali", "balinese"],
    ["bamu", "bamum"], ["bass", "bassavah"], ["batk", "batak"], ["beng", "bengali"],
    ["bhks", "bhaiksuki"], ["bopo", "bopomofo"], ["brah", "brahmi"], ["brai", "braille"],
    ["bugi", "buginese"], ["buhd", "buhid"], ["cakm", "chakma"], ["cans", "canadianaboriginal"],
    ["cari", "carian"], ["cham"], ["cher", "cherokee"], ["chrs", "chorasmian"],
    ["copt", "coptic", "qaac"], ["cpmn", "cyprominoan"], ["cprt", "cypriot"], ["cyrl", "cyrillic"],
    ["deva", "devanagari"], ["diak", "divesakuru"], ["dogr", "dogra"], ["dsrt", "deseret"],
    ["dupl", "duployan"], ["egyp", "egyptianhieroglyphs"], ["elba", "elbasan"], ["elym", "elymaic"],
    ["ethi", "ethiopic"], ["gara", "garay"], ["geor", "georgian"], ["glag", "glagolitic"],
    ["gong", "gunjalagondi"], ["gonm", "masaramgondi"], ["goth", "gothic"], ["gran", "grantha"],
    ["grek", "greek"], ["gujr", "gujarati"], ["gukh", "gurungkhema"], ["guru", "gurmukhi"],
    ["hang", "hangul"], ["hani", "han"], ["hano", "hanunoo"], ["hatr", "hatran"],
    ["hebr", "hebrew"], ["hira", "hiragana"], ["hluw", "anatolianhieroglyphs"],
    ["hmng", "pahawhhmong"], ["hmnp", "nyiakengpuachuehmong"], ["hung", "oldhungarian"],
    ["ital", "olditalic"], ["java", "javanese"], ["kali", "kayahli"], ["kana", "katakana"],
    ["kawi"], ["khar", "kharoshthi"], ["khmr", "khmer"], ["khoj", "khojki"],
    ["kits", "khitansmallscript"], ["knda", "kannada"], ["krai", "kiratrai"], ["kthi", "kaithi"],
    ["lana", "taitham"], ["laoo", "lao"], ["latn", "latin"], ["lepc", "lepcha"], ["limb", "limbu"],
    ["lina", "lineara"], ["linb", "linearb"], ["lisu"], ["lyci", "lycian"], ["lydi", "lydian"],
    ["mahj", "mahajani"], ["maka", "makasar"], ["mand", "mandaic"], ["mani", "manichaean"],
    ["marc", "marchen"], ["medf", "medefaidrin"], ["mend", "mendekikakui"],
    ["merc", "meroiticcursive"], ["mero", "meroitichieroglyphs"], ["mlym", "malayalam"], ["modi"],
    ["mong", "mongolian"], ["mroo", "mro"], ["mtei", "meeteimayek"], ["mult", "multani"],
    ["mymr", "myanmar"], ["nagm", "nagmundari"], ["nand", "nandinagari"],
    ["narb", "oldnortharabian"], ["nbat", "nabataean"], ["newa"], ["nkoo", "nko"],
    ["nshu", "nushu"], ["ogam", "ogham"], ["olck", "olchiki"], ["onao", "olonal"],
    ["orkh", "oldturkic"], ["orya", "oriya"], ["osge", "osage"], ["osma", "osmanya"],
    ["ougr", "olduyghur"], ["palm", "palmyrene"], ["pauc", "paucinhau"], ["perm", "oldpermic"],
    ["phag", "phagspa"], ["phli", "inscriptionalpahlavi"], ["phlp", "psalterpahlavi"],
    ["phnx", "phoenician"], ["plrd", "miao"], ["prti", "inscriptionalparthian"], ["rjng", "rejang"],
    ["rohg", "hanifirohingya"], ["runr", "runic"], ["samr", "samaritan"],
    ["sarb", "oldsoutharabian"], ["saur", "saurashtra"], ["sgnw", "signwriting"],
    ["shaw", "shavian"], ["shrd", "sharada"], ["sidd", "siddham"], ["sind", "khudawadi"],
    ["sinh", "sinhala"], ["sogd", "sogdian"], ["sogo", "oldsogdian"], ["sora", "sorasompeng"],
    ["soyo", "soyombo"], ["sund", "sundanese"], ["sunu", "sunuwar"], ["sylo", "sylotinagri"],
    ["syrc", "syriac"], ["tagb", "tagbanwa"], ["takr", "takri"], ["tale", "taile"],
    ["talu", "newtailue"], ["taml", "tamil"], ["tang", "tangut"], ["tavt", "taiviet"],
    ["telu", "telugu"], ["tfng", "tifinagh"], ["tglg", "tagalog"], ["thaa", "thaana"], ["thai"],
    ["tibt", "tibetan"], ["tirh", "tirhuta"], ["tnsa", "tangsa"], ["todr", "todhri"], ["toto"],
    ["tutg", "tulutigalari"], ["ugar", "ugaritic"], ["vaii", "vai"], ["vith", "vithkuqi"],
    ["wara", "warangciti"], ["wcho", "wancho"], ["xpeo", "oldpersian"], ["xsux", "cuneiform"],
    ["yezi", "yezidi"], ["yiii", "yi"], ["zanb", "zanabazarsquare"], ["zinh", "inherited", "qaai"],
    ["zyyy", "common"]]

/-- Where the script changes, ascending: every assigned character is of the script that is given
last before it or at it. -/
def scriptRuns : List (Nat × String) := [
    (0x0, "zyyy"), (0x41, "latn"), (0x5b, "zyyy"), (0x61, "latn"), (0x7b, "zyyy"), (0xaa, "latn"),
    (0xab, "zyyy"), (0xba, "latn"), (0xbb, "zyyy"), (0xc0, "latn"), (0xd7, "zyyy"), (0xd8, "latn"),
    (0xf7, "zyyy"), (0xf8, "latn"), (0x2b9, "zyyy"), (0x2e0, "latn"), (0x2e5, "zyyy"),
    (0x2ea, "bopo"), (0x2ec, "zyyy"), (0x300, "zinh"), (0x370, "grek"), (0x374, "zyyy"),
    (0x375, "grek"), (0x37e, "zyyy"), (0x37f, "grek"), (0x385, "zyyy"), (0x386, "grek"),
    (0x387, "zyyy"), (0x388, "grek"), (0x3e2, "copt"), (0x3f0, "grek"), (0x400, "cyrl"),
    (0x485, "zinh"), (0x487, "cyrl"), (0x531, "armn"), (0x591, "hebr"), (0x600, "arab"),
    (0x605, "zyyy"), (0x606, "arab"), (0x60c, "zyyy"), (0x60d, "arab"), (0x61b, "zyyy"),
    (0x61c, "arab"), (0x61f, "zyyy"), (0x620, "arab"), (0x640, "zyyy"), (0x641, "arab"),
    (0x64b, "zinh"), (0x656, "arab"), (0x670, "zinh"), (0x671, "arab"), (0x6dd, "zyyy"),
    (0x6de, "arab"), (0x700, "syrc"), (0x750, "arab"), (0x780, "thaa"), (0x7c0, "nkoo"),
    (0x800, "samr"), (0x840, "mand"), (0x860, "syrc"), (0x870, "arab"), (0x8e2, "zyyy"),
    (0x8e3, "arab"), (0x900, "deva"), (0x951, "zinh"), (0x955, "deva"), (0x964, "zyyy"),
    (0x966, "deva"), (0x980, "beng"), (0xa01, "guru"), (0xa81, "gujr"), (0xb01, "orya"),
    (0xb82, "taml"), (0xc00, "telu"), (0xc80, "knda"), (0xd00, "mlym"), (0xd81, "sinh"),
    (0xe01, "thai"), (0xe3f, "zyyy"), (0xe40, "thai"), (0xe81, "laoo"), (0xf00, "tibt"),
    (0xfd5, "zyyy"), (0xfd9, "tibt"), (0x1000, "mymr"), (0x10a0, "geor"), (0x10fb, "zyyy"),
    (0x10fc, "geor"), (0x1100, "hang"), (0x1200, "ethi"), (0x13a0, "cher"), (0x1400, "cans"),
    (0x1680, "ogam"), (0x16a0, "runr"), (0x16eb, "zyyy"), (0x16ee, "runr"), (0x1700, "tglg"),
    (0x1720, "hano"), (0x1735, "zyyy"), (0x1740, "buhd"), (0x1760, "tagb"), (0x1780, "khmr"),
    (0x1800, "mong"), (0x1802, "zyyy"), (0x1804, "mong"), (0x1805, "zyyy"), (0x1806, "mong"),
    (0x18b0, "cans"), (0x1900, "limb"), (0x1950, "tale"), (0x1980, "talu"), (0x19e0, "khmr"),
    (0x1a00, "bugi"), (0x1a20, "lana"), (0x1ab0, "zinh"), (0x1b00, "bali"), (0x1b80, "sund"),
    (0x1bc0, "batk"), (0x1c00, "lepc"), (0x1c50, "olck"), (0x1c80, "cyrl"), (0x1c90, "geor"),
    (0x1cc0, "sund"), (0x1cd0, "zinh"), (0x1cd3, "zyyy"), (0x1cd4, "zinh"), (0x1ce1, "zyyy"),
    (0x1ce2, "zinh"), (0x1ce9, "zyyy"), (0x1ced, "zinh"), (0x1cee, "zyyy"), (0x1cf4, "zinh"),
    (0x1cf5, "zyyy"), (0x1cf8, "zinh"), (0x1cfa, "zyyy"), (0x1d00, "latn"), (0x1d26, "grek"),
    (0x1d2b, "cyrl"), (0x1d2c, "latn"), (0x1d5d, "grek"), (0x1d62, "latn"), (0x1d66, "grek"),
    (0x1d6b, "latn"), (0x1d78, "cyrl"), (0x1d79, "latn"), (0x1dbf, "grek"), (0x1dc0, "zinh"),
    (0x1e00, "latn"), (0x1f00, "grek"), (0x2000, "zyyy"), (0x200c, "zinh"), (0x200e, "zyyy"),
    (0x2071, "latn"), (0x2074, "zyyy"), (0x207f, "latn"), (0x2080, "zyyy"), (0x2090, "latn"),
    (0x20a0, "zyyy"), (0x20d0, "zinh"), (0x2100, "zyyy"), (0x2126, "grek"), (0x2127, "zyyy"),
    (0x212a, "latn"), (0x212c, "zyyy"), (0x2132, "latn"), (0x2133, "zyyy"), (0x214e, "latn"),
    (0x214f, "zyyy"), (0x2160, "latn"), (0x2189, "zyyy"), (0x2800, "brai"), (0x2900, "zyyy"),
    (0x2c00, "glag"), (0x2c60, "latn"), (0x2c80, "copt"), (0x2d00, "geor"), (0x2d30, "tfng"),
    (0x2d80, "ethi"), (0x2de0, "cyrl"), (0x2e00, "zyyy"), (0x2e80, "hani"), (0x2ff0, "zyyy"),
    (0x3005, "hani"), (0x3006, "zyyy"), (0x3007, "hani"), (0x3008, "zyyy"), (0x3021, "hani"),
    (0x302a, "zinh"), (0x302e, "hang"), (0x3030, "zyyy"), (0x3038, "hani"), (0x303c, "zyyy"),
    (0x3041, "hira"), (0x3099, "zinh"), (0x309b, "zyyy"), (0x309d, "hira"), (0x30a0, "zyyy"),
    (0x30a1, "kana"), (0x30fb, "zyyy"), (0x30fd, "kana"), (0x3105, "bopo"), (0x3131, "hang"),
    (0x3190, "zyyy"), (0x31a0, "bopo"), (0x31c0, "zyyy"), (0x31f0, "kana"), (0x3200, "hang"),
    (0x3220, "zyyy"), (0x3260, "hang"), (0x327f, "zyyy"), (0x32d0, "kana"), (0x32ff, "zyyy"),
    (0x3300, "kana"), (0x3358, "zyyy"), (0x3400, "hani"), (0x4dc0, "zyyy"), (0x4e00, "hani"),
    (0xa000, "yiii"), (0xa4d0, "lisu"), (0xa500, "vaii"), (0xa640, "cyrl"), (0xa6a0, "bamu"),
    (0xa700, "zyyy"), (0xa722, "latn"), (0xa788, "zyyy"), (0xa78b, "latn"), (0xa800, "sylo"),
    (0xa830, "zyyy"), (0xa840, "phag"), (0xa880, "saur"), (0xa8e0, "deva"), (0xa900, "kali"),
    (0xa92e, "zyyy"), (0xa92f, "kali"), (0xa930, "rjng"), (0xa960, "hang"), (0xa980, "java"),
    (0xa9cf, "zyyy"), (0xa9d0, "java"), (0xa9e0, "mymr"), (0xaa00, "cham"), (0xaa60, "mymr"),
    (0xaa80, "tavt"), (0xaae0, "mtei"), (0xab01, "ethi"), (0xab30, "latn"), (0xab5b, "zyyy"),
    (0xab5c, "latn"), (0xab65, "grek"), (0xab66, "latn"), (0xab6a, "zyyy"), (0xab70, "cher"),
    (0xabc0, "mtei"), (0xac00, "hang"), (0xf900, "hani"), (0xfb00, "latn"), (0xfb13, "armn"),
    (0xfb1d, "hebr"), (0xfb50, "arab"), (0xfd3e, "zyyy"), (0xfd40, "arab"), (0xfe00, "zinh"),
    (0xfe10, "zyyy"), (0xfe20, "zinh"), (0xfe2e, "cyrl"), (0xfe30, "zyyy"), (0xfe70, "arab"),
    (0xfeff, "zyyy"), (0xff21, "latn"), (0xff3b, "zyyy"), (0xff41, "latn"), (0xff5b, "zyyy"),
    (0xff66, "kana"), (0xff70, "zyyy"), (0xff71, "kana"), (0xff9e, "zyyy"), (0xffa0, "hang"),
    (0xffe0, "zyyy"), (0x10000, "linb"), (0x10100, "zyyy"), (0x10140, "grek"), (0x10190, "zyyy"),
    (0x101a0, "grek"), (0x101d0, "zyyy"), (0x101fd, "zinh"), (0x10280, "lyci"), (0x102a0, "cari"),
    (0x102e0, "zinh"), (0x102e1, "zyyy"), (0x10300, "ital"), (0x10330, "goth"), (0x10350, "perm"),
    (0x10380, "ugar"), (0x103a0, "xpeo"), (0x10400, "dsrt"), (0x10450, "shaw"), (0x10480, "osma"),
    (0x104b0, "osge"), (0x10500, "elba"), (0x10530, "aghb"), (0x10570, "vith"), (0x105c0, "todr"),
    (0x10600, "lina"), (0x10780, "latn"), (0x10800, "cprt"), (0x10840, "armi"), (0x10860, "palm"),
    (0x10880, "nbat"), (0x108e0, "hatr"), (0x10900, "phnx"), (0x10920, "lydi"), (0x10980, "mero"),
    (0x109a0, "merc"), (0x10a00, "khar"), (0x10a60, "sarb"), (0x10a80, "narb"), (0x10ac0, "mani"),
    (0x10b00, "avst"), (0x10b40, "prti"), (0x10b60, "phli"), (0x10b80, "phlp"), (0x10c00, "orkh"),
    (0x10c80, "hung"), (0x10d00, "rohg"), (0x10d40, "gara"), (0x10e60, "arab"), (0x10e80, "yezi"),
    (0x10ec2, "arab"), (0x10f00, "sogo"), (0x10f30, "sogd"), (0x10f70, "ougr"), (0x10fb0, "chrs"),
    (0x10fe0, "elym"), (0x11000, "brah"), (0x11080, "kthi"), (0x110d0, "sora"), (0x11100, "cakm"),
    (0x11150, "mahj"), (0x11180, "shrd"), (0x111e1, "sinh"), (0x11200, "khoj"), (0x11280, "mult"),
    (0x112b0, "sind"), (0x11300, "gran"), (0x1133b, "zinh"), (0x1133c, "gran"), (0x11380, "tutg"),
    (0x11400, "newa"), (0x11480, "tirh"), (0x11580, "sidd"), (0x11600, "modi"), (0x11660, "mong"),
    (0x11680, "takr"), (0x116d0, "mymr"), (0x11700, "ahom"), (0x11800, "dogr"), (0x118a0, "wara"),
    (0x11900, "diak"), (0x119a0, "nand"), (0x11a00, "zanb"), (0x11a50, "soyo"), (0x11ab0, "cans"),
    (0x11ac0, "pauc"), (0x11b00, "deva"), (0x11bc0, "sunu"), (0x11c00, "bhks"), (0x11c70, "marc"),
    (0x11d00, "gonm"), (0x11d60, "gong"), (0x11ee0, "maka"), (0x11f00, "kawi"), (0x11fb0, "lisu"),
    (0x11fc0, "taml"), (0x12000, "xsux"), (0x12f90, "cpmn"), (0x13000, "egyp"), (0x14400, "hluw"),
    (0x16100, "gukh"), (0x16800, "bamu"), (0x16a40, "mroo"), (0x16a70, "tnsa"), (0x16ad0, "bass"),
    (0x16b00, "hmng"), (0x16d40, "krai"), (0x16e40, "medf"), (0x16f00, "plrd"), (0x16fe0, "tang"),
    (0x16fe1, "nshu"), (0x16fe2, "hani"), (0x16fe4, "kits"), (0x16ff0, "hani"), (0x17000, "tang"),
    (0x18b00, "kits"), (0x18d00, "tang"), (0x1aff0, "kana"), (0x1b001, "hira"), (0x1b120, "kana"),
    (0x1b132, "hira"), (0x1b155, "kana"), (0x1b170, "nshu"), (0x1bc00, "dupl"), (0x1bca0, "zyyy"),
    (0x1cf00, "zinh"), (0x1cf50, "zyyy"), (0x1d167, "zinh"), (0x1d16a, "zyyy"), (0x1d17b, "zinh"),
    (0x1d183, "zyyy"), (0x1d185, "zinh"), (0x1d18c, "zyyy"), (0x1d1aa, "zinh"), (0x1d1ae, "zyyy"),
    (0x1d200, "grek"), (0x1d2c0, "zyyy"), (0x1d800, "sgnw"), (0x1df00, "latn"), (0x1e000, "glag"),
    (0x1e030, "cyrl"), (0x1e100, "hmnp"), (0x1e290, "toto"), (0x1e2c0, "wcho"), (0x1e4d0, "nagm"),
    (0x1e5d0, "onao"), (0x1e7e0, "ethi"), (0x1e800, "mend"), (0x1e900, "adlm"), (0x1ec71, "zyyy"),
    (0x1ee00, "arab"), (0x1f000, "zyyy"), (0x1f200, "hira"), (0x1f201, "zyyy"), (0x20000, "hani"),
    (0xe0001, "zyyy"), (0xe0100, "zinh")]

/-- The ranges of characters that are used in other scripts than their own alone, ascending, and
these scripts. -/
def scriptExtensions : List (Nat × Nat × List String) := [
    (0xb7, 0xb7, ["avst", "cari", "copt", "dupl", "elba", "geor", "glag", "gong", "goth", "grek",
      "hani", "latn", "lydi", "mahj", "perm", "shaw"]),
    (0x2bc, 0x2bc, ["beng", "cyrl", "deva", "latn", "lisu", "thai", "toto"]),
    (0x2c7, 0x2c7, ["bopo", "latn"]), (0x2c9, 0x2cb, ["bopo", "latn"]),
    (0x2cd, 0x2cd, ["latn", "lisu"]), (0x2d7, 0x2d7, ["latn", "thai"]),
    (0x2d9, 0x2d9, ["bopo", "latn"]),
    (0x300, 0x300, ["cher", "copt", "cyrl", "grek", "latn", "perm", "sunu", "tale"]),
    (0x301, 0x301, ["cher", "cyrl", "grek", "latn", "osge", "sunu", "tale", "todr"]),
    (0x302, 0x302, ["cher", "cyrl", "latn", "tfng"]),
    (0x303, 0x303, ["glag", "latn", "sunu", "syrc", "thai"]),
    (0x304, 0x304, ["aghb", "cher", "copt", "cyrl", "goth", "grek", "latn", "osge", "syrc", "tfng",
      "todr"]),
    (0x305, 0x305, ["copt", "elba", "glag", "goth", "kana", "latn"]),
    (0x306, 0x306, ["cyrl", "grek", "latn", "perm", "tfng"]),
    (0x307, 0x307, ["copt", "dupl", "hebr", "latn", "perm", "syrc", "tale", "tfng", "todr"]),
    (0x308, 0x308, ["armn", "cyrl", "dupl", "goth", "grek", "hebr", "latn", "perm", "syrc", "tale",
      "tfng"]),
    (0x309, 0x309, ["latn", "tfng"]), (0x30a, 0x30a, ["dupl", "latn", "syrc"]),
    (0x30b, 0x30b, ["cher", "cyrl", "latn", "osge"]), (0x30c, 0x30c, ["cher", "latn", "tale"]),
    (0x30d, 0x30d, ["latn", "sunu"]), (0x30e, 0x30e, ["ethi", "latn"]),
    (0x310, 0x310, ["latn", "sunu"]), (0x311, 0x311, ["cyrl", "latn", "todr"]),
    (0x313, 0x313, ["grek", "latn", "perm", "todr"]),
    (0x323, 0x323, ["cher", "dupl", "kana", "latn", "syrc", "tfng"]),
    (0x324, 0x324, ["cher", "dupl", "latn", "syrc"]), (0x325, 0x325, ["latn", "syrc"]),
    (0x32d, 0x32d, ["latn", "sunu", "syrc"]), (0x32e, 0x32e, ["latn", "syrc"]),
    (0x330, 0x330, ["cher", "latn", "syrc"]),
    (0x331, 0x331, ["aghb", "cher", "goth", "latn", "sunu", "syrc", "thai"]),
    (0x342, 0x342, ["grek"]), (0x345, 0x345, ["grek"]), (0x358, 0x358, ["latn", "osge"]),
    (0x35e, 0x35e, ["aghb", "latn", "todr"]), (0x363, 0x36f, ["latn"]),
    (0x374, 0x375, ["copt", "grek"]), (0x483, 0x483, ["cyrl", "perm"]),
    (0x484, 0x484, ["cyrl", "glag"]), (0x485, 0x486, ["cyrl", "latn"]),
    (0x487, 0x487, ["cyrl", "glag"]), (0x589, 0x589, ["armn", "geor", "glag"]),
    (0x60c, 0x60c, ["arab", "gara", "nkoo", "rohg", "syrc", "thaa", "yezi"]),
    (0x61b, 0x61b, ["arab", "gara", "nkoo", "rohg", "syrc", "thaa", "yezi"]),
    (0x61c, 0x61c, ["arab", "syrc", "thaa"]),
    (0x61f, 0x61f, ["adlm", "arab", "gara", "nkoo", "rohg", "syrc", "thaa", "yezi"]),
    (0x640, 0x640, ["adlm", "arab", "mand", "mani", "ougr", "phlp", "rohg", "sogd", "syrc"]),
    (0x64b, 0x655, ["arab", "syrc"]), (0x660, 0x669, ["arab", "thaa", "yezi"]),
    (0x670, 0x670, ["arab", "syrc"]), (0x6d4, 0x6d4, ["arab", "rohg"]),
    (0x951, 0x951, ["beng", "deva", "gran", "gujr", "guru", "knda", "latn", "mlym", "nand", "newa",
      "orya", "shrd", "taml", "telu", "tirh"]),
    (0x952, 0x952, ["beng", "deva", "gran", "gujr", "guru", "knda", "latn", "mlym", "newa", "orya",
      "taml", "telu", "tirh"]),
    (0x964, 0x964, ["beng", "deva", "dogr", "gong", "gonm", "gran", "gujr", "guru", "knda", "mahj",
      "mlym", "nand", "onao", "orya", "sind", "sinh", "sylo", "takr", "taml", "telu", "tirh"]),
    (0x965, 0x965, ["beng", "deva", "dogr", "gong", "gonm", "gran", "gujr", "gukh", "guru", "knda",
      "limb", "mahj", "mlym", "nand", "onao", "orya", "sind", "sinh", "sylo", "takr", "taml",
      "telu", "tirh"]),
    (0x966, 0x96f, ["deva", "dogr", "kthi", "mahj"]), (0x9e6, 0x9ef, ["beng", "cakm", "sylo"]),
    (0xa66, 0xa6f, ["guru", "mult"]), (0xae6, 0xaef, ["gujr", "khoj"]),
    (0xbe6, 0xbf3, ["gran", "taml"]), (0xce6, 0xcef, ["knda", "nand", "tutg"]),
    (0x1040, 0x1049, ["cakm", "mymr", "tale"]), (0x10fb, 0x10fb, ["geor", "glag", "latn"]),
    (0x16eb, 0x16ed, ["runr"]), (0x1735, 0x1736, ["buhd", "hano", "tagb", "tglg"]),
    (0x1802, 0x1803, ["mong", "phag"]), (0x1805, 0x1805, ["mong", "phag"]),
    (0x1cd0, 0x1cd0, ["beng", "deva", "gran", "knda"]), (0x1cd1, 0x1cd1, ["deva"]),
    (0x1cd2, 0x1cd2, ["beng", "deva", "gran", "knda"]), (0x1cd3, 0x1cd3, ["deva", "gran", "knda"]),
    (0x1cd4, 0x1cd4, ["deva"]), (0x1cd5, 0x1cd5, ["beng", "deva", "newa", "telu", "tirh"]),
    (0x1cd6, 0x1cd6, ["beng", "deva", "telu"]), (0x1cd7, 0x1cd7, ["deva", "newa", "shrd"]),
    (0x1cd8, 0x1cd8, ["beng", "deva", "newa", "telu"]), (0x1cd9, 0x1cd9, ["deva", "shrd"]),
    (0x1cda, 0x1cda, ["deva", "knda", "mlym", "orya", "taml", "telu"]), (0x1cdb, 0x1cdb, ["deva"]),
    (0x1cdc, 0x1cdd, ["deva", "shrd"]), (0x1cde, 0x1cdf, ["deva"]),
    (0x1ce0, 0x1ce0, ["deva", "shrd"]), (0x1ce1, 0x1ce1, ["beng", "deva"]),
    (0x1ce2, 0x1ce2, ["deva", "newa", "tirh"]), (0x1ce3, 0x1ce8, ["deva"]),
    (0x1ce9, 0x1ce9, ["deva", "nand", "newa"]), (0x1cea, 0x1cea, ["beng", "deva", "shrd"]),
    (0x1ceb, 0x1ceb, ["deva", "newa"]), (0x1cec, 0x1cec, ["deva"]),
    (0x1ced, 0x1ced, ["beng", "deva", "newa", "shrd"]), (0x1cee, 0x1cf1, ["deva"]),
    (0x1cf2, 0x1cf2, ["beng", "deva", "gran", "knda", "mlym", "nand", "orya", "sinh", "telu",
      "tirh", "tutg"]),
    (0x1cf3, 0x1cf3, ["deva", "gran"]), (0x1cf4, 0x1cf4, ["deva", "gran", "knda", "tutg"]),
    (0x1cf5, 0x1cf6, ["beng", "deva"]), (0x1cf7, 0x1cf7, ["beng"]),
    (0x1cf8, 0x1cf9, ["deva", "gran"]), (0x1cfa, 0x1cfa, ["nand"]), (0x1dc0, 0x1dc1, ["grek"]),
    (0x1df8, 0x1df8, ["cyrl", "latn", "syrc"]), (0x1dfa, 0x1dfa, ["syrc"]),
    (0x202f, 0x202f, ["latn", "mong", "phag"]), (0x204f, 0x204f, ["adlm", "arab"]),
    (0x205a, 0x205a, ["cari", "geor", "glag", "hung", "lyci", "orkh"]),
    (0x205d, 0x205d, ["cari", "grek", "hung", "mero"]), (0x20f0, 0x20f0, ["deva", "gran", "latn"]),
    (0x2e17, 0x2e17, ["copt", "latn"]), (0x2e30, 0x2e30, ["avst", "orkh"]),
    (0x2e31, 0x2e31, ["avst", "cari", "geor", "hung", "kthi", "lydi", "samr"]),
    (0x2e3c, 0x2e3c, ["dupl"]), (0x2e41, 0x2e41, ["adlm", "arab", "hung"]),
    (0x2e43, 0x2e43, ["cyrl", "glag"]), (0x2ff0, 0x2fff, ["hani", "tang"]),
    (0x3001, 0x3001, ["bopo", "hang", "hani", "hira", "kana", "mong", "yiii"]),
    (0x3002, 0x3002, ["bopo", "hang", "hani", "hira", "kana", "mong", "phag", "yiii"]),
    (0x3003, 0x3003, ["bopo", "hang", "hani", "hira", "kana"]), (0x3006, 0x3006, ["hani"]),
    (0x3008, 0x3009, ["bopo", "hang", "hani", "hira", "kana", "mong", "tibt", "yiii"]),
    (0x300a, 0x300b, ["bopo", "hang", "hani", "hira", "kana", "lisu", "mong", "tibt", "yiii"]),
    (0x300c, 0x3011, ["bopo", "hang", "hani", "hira", "kana", "yiii"]),
    (0x3013, 0x3013, ["bopo", "hang", "hani", "hira", "kana"]),
    (0x3014, 0x301b, ["bopo", "hang", "hani", "hira", "kana", "yiii"]),
    (0x301c, 0x301f, ["bopo", "hang", "hani", "hira", "kana"]), (0x302a, 0x302d, ["bopo", "hani"]),
    (0x3030, 0x3030, ["bopo", "hang", "hani", "hira", "kana"]), (0x3031, 0x3035, ["hira", "kana"]),
    (0x3037, 0x3037, ["bopo", "hang", "hani", "hira", "kana"]),
    (0x303c, 0x303d, ["hani", "hira", "kana"]), (0x303e, 0x303f, ["hani"]),
    (0x3099, 0x309c, ["hira", "kana"]), (0x30a0, 0x30a0, ["hira", "kana"]),
    (0x30fb, 0x30fb, ["bopo", "hang", "hani", "hira", "kana", "yiii"]),
    (0x30fc, 0x30fc, ["hira", "kana"]), (0x3190, 0x319f, ["hani"]), (0x31c0, 0x31e5, ["hani"]),
    (0x31ef, 0x31ef, ["hani", "tang"]), (0x3220, 0x3247, ["hani"]), (0x3280, 0x32b0, ["hani"]),
    (0x32c0, 0x32cb, ["hani"]), (0x32ff, 0x32ff, ["hani"]), (0x3358, 0x3370, ["hani"]),
    (0x337b, 0x337f, ["hani"]), (0x33e0, 0x33fe, ["hani"]), (0xa66f, 0xa66f, ["cyrl", "glag"]),
    (0xa700, 0xa707, ["hani", "latn"]),
    (0xa830, 0xa832, ["deva", "dogr", "gujr", "guru", "khoj", "knda", "kthi", "mahj", "mlym",
      "modi", "nand", "shrd", "sind", "takr", "tirh", "tutg"]),
    (0xa833, 0xa835, ["deva", "dogr", "gujr", "guru", "khoj", "knda", "kthi", "mahj", "modi",
      "nand", "shrd", "sind", "takr", "tirh", "tutg"]),
    (0xa836, 0xa837, ["deva", "dogr", "gujr", "guru", "khoj", "kthi", "mahj", "modi", "sind",
      "takr", "tirh"]),
    (0xa838, 0xa838, ["deva", "dogr", "gujr", "guru", "khoj", "kthi", "mahj", "modi", "shrd",
      "sind", "takr", "tirh"]),
    (0xa839, 0xa839, ["deva", "dogr", "gujr", "guru", "khoj", "kthi", "mahj", "modi", "sind",
      "takr", "tirh"]),
    (0xa8f1, 0xa8f1, ["beng", "deva", "tutg"]), (0xa8f3, 0xa8f3, ["deva", "taml"]),
    (0xa92e, 0xa92e, ["kali", "latn", "mymr"]), (0xa9cf, 0xa9cf, ["bugi", "java"]),
    (0xfd3e, 0xfd3f, ["arab", "nkoo"]), (0xfdf2, 0xfdf2, ["arab", "thaa"]),
    (0xfdfd, 0xfdfd, ["arab", "thaa"]), (0xfe45, 0xfe46, ["bopo", "hang", "hani", "hira", "kana"]),
    (0xff61, 0xff65, ["bopo", "hang", "hani", "hira", "kana", "yiii"]),
    (0xff70, 0xff70, ["hira", "kana"]), (0xff9e, 0xff9f, ["hira", "kana"]),
    (0x10100, 0x10101, ["cpmn", "cprt", "linb"]), (0x10102, 0x10102, ["cprt", "linb"]),
    (0x10107, 0x10133, ["cprt", "lina", "linb"]), (0x10137, 0x1013f, ["cprt", "linb"]),
    (0x102e0, 0x102fb, ["arab", "copt"]), (0x10af2, 0x10af2, ["mani", "ougr"]),
    (0x11301, 0x11301, ["gran", "taml"]), (0x11303, 0x11303, ["gran", "taml"]),
    (0x1133b, 0x1133c, ["gran", "taml"]), (0x11fd0, 0x11fd1, ["gran", "taml"]),
    (0x11fd3, 0x11fd3, ["gran", "taml"]), (0x1bca0, 0x1bca3, ["dupl"]),
    (0x1d360, 0x1d371, ["hani"]), (0x1f250, 0x1f251, ["hani"])]

end Text

end TypedCollections
