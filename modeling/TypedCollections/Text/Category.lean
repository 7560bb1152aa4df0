/-!
# General categories

The general category of every code point: what kind of character it is, if there is one. Letters are
upper-case, lower-case, title-case, modifiers or others; marks take no space, some space or enclose;
numbers are decimal digits, letters or others; punctuation connects, is a dash, opens, closes, is an
initial or final quotation mark or another; symbols are of mathematics, currencies, modifiers or
others; separators are spaces, lines or paragraphs; and what is left are controls, formats,
surrogates, code points for private use and those that are not assigned.
-/

namespace TypedCollections

namespace Text

/-- The general categories, by their abbreviations. -/
inductive Category where
  | lu | ll | lt | lm | lo
  | mn | mc | me
  | nd | nl | no
  | pc | pd | ps | pe | pi | pf | po
  | sm | sc | sk | so
  | zs | zl | zp
  | cc | cf | cs | co | cn
deriving DecidableEq

/-- The ranges of assigned code points, ascending. -/
def assignedRanges : List (Nat × Nat) := [
    (0x0, 0x377), (0x37a, 0x37f), (0x384, 0x38a), (0x38c, 0x38c), (0x38e, 0x3a1), (0x3a3, 0x52f),
    (0x531, 0x556), (0x559, 0x58a), (0x58d, 0x58f), (0x591, 0x5c7), (0x5d0, 0x5ea), (0x5ef, 0x5f4),
    (0x600, 0x70d), (0x70f, 0x74a), (0x74d, 0x7b1), (0x7c0, 0x7fa), (0x7fd, 0x82d), (0x830, 0x83e),
    (0x840, 0x85b), (0x85e, 0x85e), (0x860, 0x86a), (0x870, 0x88e), (0x890, 0x891), (0x897, 0x983),
    (0x985, 0x98c), (0x98f, 0x990), (0x993, 0x9a8), (0x9aa, 0x9b0), (0x9b2, 0x9b2), (0x9b6, 0x9b9),
    (0x9bc, 0x9c4), (0x9c7, 0x9c8), (0x9cb, 0x9ce), (0x9d7, 0x9d7), (0x9dc, 0x9dd), (0x9df, 0x9e3),
    (0x9e6, 0x9fe), (0xa01, 0xa03), (0xa05, 0xa0a), (0xa0f, 0xa10), (0xa13, 0xa28), (0xa2a, 0xa30),
    (0xa32, 0xa33), (0xa35, 0xa36), (0xa38, 0xa39), (0xa3c, 0xa3c), (0xa3e, 0xa42), (0xa47, 0xa48),
    (0xa4b, 0xa4d), (0xa51, 0xa51), (0xa59, 0xa5c), (0xa5e, 0xa5e), (0xa66, 0xa76), (0xa81, 0xa83),
    (0xa85, 0xa8d), (0xa8f, 0xa91), (0xa93, 0xaa8), (0xaaa, 0xab0), (0xab2, 0xab3), (0xab5, 0xab9),
    (0xabc, 0xac5), (0xac7, 0xac9), (0xacb, 0xacd), (0xad0, 0xad0), (0xae0, 0xae3), (0xae6, 0xaf1),
    (0xaf9, 0xaff), (0xb01, 0xb03), (0xb05, 0xb0c), (0xb0f, 0xb10), (0xb13, 0xb28), (0xb2a, 0xb30),
    (0xb32, 0xb33), (0xb35, 0xb39), (0xb3c, 0xb44), (0xb47, 0xb48), (0xb4b, 0xb4d), (0xb55, 0xb57),
    (0xb5c, 0xb5d), (0xb5f, 0xb63), (0xb66, 0xb77), (0xb82, 0xb83), (0xb85, 0xb8a), (0xb8e, 0xb90),
    (0xb92, 0xb95), (0xb99, 0xb9a), (0xb9c, 0xb9c), (0xb9e, 0xb9f), (0xba3, 0xba4), (0xba8, 0xbaa),
    (0xbae, 0xbb9), (0xbbe, 0xbc2), (0xbc6, 0xbc8), (0xbca, 0xbcd), (0xbd0, 0xbd0), (0xbd7, 0xbd7),
    (0xbe6, 0xbfa), (0xc00, 0xc0c), (0xc0e, 0xc10), (0xc12, 0xc28), (0xc2a, 0xc39), (0xc3c, 0xc44),
    (0xc46, 0xc48), (0xc4a, 0xc4d), (0xc55, 0xc56), (0xc58, 0xc5a), (0xc5d, 0xc5d), (0xc60, 0xc63),
    (0xc66, 0xc6f), (0xc77, 0xc8c), (0xc8e, 0xc90), (0xc92, 0xca8), (0xcaa, 0xcb3), (0xcb5, 0xcb9),
    (0xcbc, 0xcc4), (0xcc6, 0xcc8), (0xcca, 0xccd), (0xcd5, 0xcd6), (0xcdd, 0xcde), (0xce0, 0xce3),
    (0xce6, 0xcef), (0xcf1, 0xcf3), (0xd00, 0xd0c), (0xd0e, 0xd10), (0xd12, 0xd44), (0xd46, 0xd48),
    (0xd4a, 0xd4f), (0xd54, 0xd63), (0xd66, 0xd7f), (0xd81, 0xd83), (0xd85, 0xd96), (0xd9a, 0xdb1),
    (0xdb3, 0xdbb), (0xdbd, 0xdbd), (0xdc0, 0xdc6), (0xdca, 0xdca), (0xdcf, 0xdd4), (0xdd6, 0xdd6),
    (0xdd8, 0xddf), (0xde6, 0xdef), (0xdf2, 0xdf4), (0xe01, 0xe3a), (0xe3f, 0xe5b), (0xe81, 0xe82),
    (0xe84, 0xe84), (0xe86, 0xe8a), (0xe8c, 0xea3), (0xea5, 0xea5), (0xea7, 0xebd), (0xec0, 0xec4),
    (0xec6, 0xec6), (0xec8, 0xece), (0xed0, 0xed9), (0xedc, 0xedf), (0xf00, 0xf47), (0xf49, 0xf6c),
    (0xf71, 0xf97), (0xf99, 0xfbc), (0xfbe, 0xfcc), (0xfce, 0xfda), (0x1000, 0x10c5),
    (0x10c7, 0x10c7), (0x10cd, 0x10cd), (0x10d0, 0x1248), (0x124a, 0x124d), (0x1250, 0x1256),
    (0x1258, 0x1258), (0x125a, 0x125d), (0x1260, 0x1288), (0x128a, 0x128d), (0x1290, 0x12b0),
    (0x12b2, 0x12b5), (0x12b8, 0x12be), (0x12c0, 0x12c0), (0x12c2, 0x12c5), (0x12c8, 0x12d6),
    (0x12d8, 0x1310), (0x1312, 0x1315), (0x1318, 0x135a), (0x135d, 0x137c), (0x1380, 0x1399),
    (0x13a0, 0x13f5), (0x13f8, 0x13fd), (0x1400, 0x169c), (0x16a0, 0x16f8), (0x1700, 0x1715),
    (0x171f, 0x1736), (0x1740, 0x1753), (0x1760, 0x176c), (0x176e, 0x1770), (0x1772, 0x1773),
    (0x1780, 0x17dd), (0x17e0, 0x17e9), (0x17f0, 0x17f9), (0x1800, 0x1819), (0x1820, 0x1878),
    (0x1880, 0x18aa), (0x18b0, 0x18f5), (0x1900, 0x191e), (0x1920, 0x192b), (0x1930, 0x193b),
    (0x1940, 0x1940), (0x1944, 0x196d), (0x1970, 0x1974), (0x1980, 0x19ab), (0x19b0, 0x19c9),
    (0x19d0, 0x19da), (0x19de, 0x1a1b), (0x1a1e, 0x1a5e), (0x1a60, 0x1a7c), (0x1a7f, 0x1a89),
    (0x1a90, 0x1a99), (0x1aa0, 0x1aad), (0x1ab0, 0x1ace), (0x1b00, 0x1b4c), (0x1b4e, 0x1bf3),
    (0x1bfc, 0x1c37), (0x1c3b, 0x1c49), (0x1c4d, 0x1c8a), (0x1c90, 0x1cba), (0x1cbd, 0x1cc7),
    (0x1cd0, 0x1cfa), (0x1d00, 0x1f15), (0x1f18, 0x1f1d), (0x1f20, 0x1f45), (0x1f48, 0x1f4d),
    (0x1f50, 0x1f57), (0x1f59, 0x1f59), (0x1f5b, 0x1f5b), (0x1f5d, 0x1f5d), (0x1f5f, 0x1f7d),
    (0x1f80, 0x1fb4), (0x1fb6, 0x1fc4), (0x1fc6, 0x1fd3), (0x1fd6, 0x1fdb), (0x1fdd, 0x1fef),
    (0x1ff2, 0x1ff4), (0x1ff6, 0x1ffe), (0x2000, 0x2064), (0x2066, 0x2071), (0x2074, 0x208e),
    (0x2090, 0x209c), (0x20a0, 0x20c0), (0x20d0, 0x20f0), (0x2100, 0x218b), (0x2190, 0x2429),
    (0x2440, 0x244a), (0x2460, 0x2b73), (0x2b76, 0x2b95), (0x2b97, 0x2cf3), (0x2cf9, 0x2d25),
    (0x2d27, 0x2d27), (0x2d2d, 0x2d2d), (0x2d30, 0x2d67), (0x2d6f, 0x2d70), (0x2d7f, 0x2d96),
    (0x2da0, 0x2da6), (0x2da8, 0x2dae), (0x2db0, 0x2db6), (0x2db8, 0x2dbe), (0x2dc0, 0x2dc6),
    (0x2dc8, 0x2dce), (0x2dd0, 0x2dd6), (0x2dd8, 0x2dde), (0x2de0, 0x2e5d), (0x2e80, 0x2e99),
    (0x2e9b, 0x2ef3), (0x2f00, 0x2fd5), (0x2ff0, 0x303f), (0x3041, 0x3096), (0x3099, 0x30ff),
    (0x3105, 0x312f), (0x3131, 0x318e), (0x3190, 0x31e5), (0x31ef, 0x321e), (0x3220, 0xa48c),
    (0xa490, 0xa4c6), (0xa4d0, 0xa62b), (0xa640, 0xa6f7), (0xa700, 0xa7cd), (0xa7d0, 0xa7d1),
    (0xa7d3, 0xa7d3), (0xa7d5, 0xa7dc), (0xa7f2, 0xa82c), (0xa830, 0xa839), (0xa840, 0xa877),
    (0xa880, 0xa8c5), (0xa8ce, 0xa8d9), (0xa8e0, 0xa953), (0xa95f, 0xa97c), (0xa980, 0xa9cd),
    (0xa9cf, 0xa9d9), (0xa9de, 0xa9fe), (0xaa00, 0xaa36), (0xaa40, 0xaa4d), (0xaa50, 0xaa59),
    (0xaa5c, 0xaac2), (0xaadb, 0xaaf6), (0xab01, 0xab06), (0xab09, 0xab0e), (0xab11, 0xab16),
    (0xab20, 0xab26), (0xab28, 0xab2e), (0xab30, 0xab6b), (0xab70, 0xabed), (0xabf0, 0xabf9),
    (0xac00, 0xd7a3), (0xd7b0, 0xd7c6), (0xd7cb, 0xd7fb), (0xd800, 0xfa6d), (0xfa70, 0xfad9),
    (0xfb00, 0xfb06), (0xfb13, 0xfb17), (0xfb1d, 0xfb36), (0xfb38, 0xfb3c), (0xfb3e, 0xfb3e),
    (0xfb40, 0xfb41), (0xfb43, 0xfb44), (0xfb46, 0xfbc2), (0xfbd3, 0xfd8f), (0xfd92, 0xfdc7),
    (0xfdcf, 0xfdcf), (0xfdf0, 0xfe19), (0xfe20, 0xfe52), (0xfe54, 0xfe66), (0xfe68, 0xfe6b),
    (0xfe70, 0xfe74), (0xfe76, 0xfefc), (0xfeff, 0xfeff), (0xff01, 0xffbe), (0xffc2, 0xffc7),
    (0xffca, 0xffcf), (0xffd2, 0xffd7), (0xffda, 0xffdc), (0xffe0, 0xffe6), (0xffe8, 0xffee),
    (0xfff9, 0xfffd), (0x10000, 0x1000b), (0x1000d, 0x10026), (0x10028, 0x1003a),
    (0x1003c, 0x1003d), (0x1003f, 0x1004d), (0x10050, 0x1005d), (0x10080, 0x100fa),
    (0x10100, 0x10102), (0x10107, 0x10133), (0x10137, 0x1018e), (0x10190, 0x1019c),
    (0x101a0, 0x101a0), (0x101d0, 0x101fd), (0x10280, 0x1029c), (0x102a0, 0x102d0),
    (0x102e0, 0x102fb), (0x10300, 0x10323), (0x1032d, 0x1034a), (0x10350, 0x1037a),
    (0x10380, 0x1039d), (0x1039f, 0x103c3), (0x103c8, 0x103d5), (0x10400, 0x1049d),
    (0x104a0, 0x104a9), (0x104b0, 0x104d3), (0x104d8, 0x104fb), (0x10500, 0x10527),
    (0x10530, 0x10563), (0x1056f, 0x1057a), (0x1057c, 0x1058a), (0x1058c, 0x10592),
    (0x10594, 0x10595), (0x10597, 0x105a1), (0x105a3, 0x105b1), (0x105b3, 0x105b9),
    (0x105bb, 0x105bc), (0x105c0, 0x105f3), (0x10600, 0x10736), (0x10740, 0x10755),
    (0x10760, 0x10767), (0x10780, 0x10785), (0x10787, 0x107b0), (0x107b2, 0x107ba),
    (0x10800, 0x10805), (0x10808, 0x10808), (0x1080a, 0x10835), (0x10837, 0x10838),
    (0x1083c, 0x1083c), (0x1083f, 0x10855), (0x10857, 0x1089e), (0x108a7, 0x108af),
    (0x108e0, 0x108f2), (0x108f4, 0x108f5), (0x108fb, 0x1091b), (0x1091f, 0x10939),
    (0x1093f, 0x1093f), (0x10980, 0x109b7), (0x109bc, 0x109cf), (0x109d2, 0x10a03),
    (0x10a05, 0x10a06), (0x10a0c, 0x10a13), (0x10a15, 0x10a17), (0x10a19, 0x10a35),
    (0x10a38, 0x10a3a), (0x10a3f, 0x10a48), (0x10a50, 0x10a58), (0x10a60, 0x10a9f),
    (0x10ac0, 0x10ae6), (0x10aeb, 0x10af6), (0x10b00, 0x10b35), (0x10b39, 0x10b55),
    (0x10b58, 0x10b72), (0x10b78, 0x10b91), (0x10b99, 0x10b9c), (0x10ba9, 0x10baf),
    (0x10c00, 0x10c48), (0x10c80, 0x10cb2), (0x10cc0, 0x10cf2), (0x10cfa, 0x10d27),
    (0x10d30, 0x10d39), (0x10d40, 0x10d65), (0x10d69, 0x10d85), (0x10d8e, 0x10d8f),
    (0x10e60, 0x10e7e), (0x10e80, 0x10ea9), (0x10eab, 0x10ead), (0x10eb0, 0x10eb1),
    (0x10ec2, 0x10ec4), (0x10efc, 0x10f27), (0x10f30, 0x10f59), (0x10f70, 0x10f89),
    (0x10fb0, 0x10fcb), (0x10fe0, 0x10ff6), (0x11000, 0x1104d), (0x11052, 0x11075),
    (0x1107f, 0x110c2), (0x110cd, 0x110cd), (0x110d0, 0x110e8), (0x110f0, 0x110f9),
    (0x11100, 0x11134), (0x11136, 0x11147), (0x11150, 0x11176), (0x11180, 0x111df),
    (0x111e1, 0x111f4), (0x11200, 0x11211), (0x11213, 0x11241), (0x11280, 0x11286),
    (0x11288, 0x11288), (0x1128a, 0x1128d), (0x1128f, 0x1129d), (0x1129f, 0x112a9),
    (0x112b0, 0x112ea), (0x112f0, 0x112f9), (0x11300, 0x11303), (0x11305, 0x1130c),
    (0x1130f, 0x11310), (0x11313, 0x11328), (0x1132a, 0x11330), (0x11332, 0x11333),
    (0x11335, 0x11339), (0x1133b, 0x11344), (0x11347, 0x11348), (0x1134b, 0x1134d),
    (0x11350, 0x11350), (0x11357, 0x11357), (0x1135d, 0x11363), (0x11366, 0x1136c),
    (0x11370, 0x11374), (0x11380, 0x11389), (0x1138b, 0x1138b), (0x1138e, 0x1138e),
    (0x11390, 0x113b5), (0x113b7, 0x113c0), (0x113c2, 0x113c2), (0x113c5, 0x113c5),
    (0x113c7, 0x113ca), (0x113cc, 0x113d5), (0x113d7, 0x113d8), (0x113e1, 0x113e2),
    (0x11400, 0x1145b), (0x1145d, 0x11461), (0x11480, 0x114c7), (0x114d0, 0x114d9),
    (0x11580, 0x115b5), (0x115b8, 0x115dd), (0x11600, 0x11644), (0x11650, 0x11659),
    (0x11660, 0x1166c), (0x11680, 0x116b9), (0x116c0, 0x116c9), (0x116d0, 0x116e3),
    (0x11700, 0x1171a), (0x1171d, 0x1172b), (0x11730, 0x11746), (0x11800, 0x1183b),
    (0x118a0, 0x118f2), (0x118ff, 0x11906), (0x11909, 0x11909), (0x1190c, 0x11913),
    (0x11915, 0x11916), (0x11918, 0x11935), (0x11937, 0x11938), (0x1193b, 0x11946),
    (0x11950, 0x11959), (0x119a0, 0x119a7), (0x119aa, 0x119d7), (0x119da, 0x119e4),
    (0x11a00, 0x11a47), (0x11a50, 0x11aa2), (0x11ab0, 0x11af8), (0x11b00, 0x11b09),
    (0x11bc0, 0x11be1), (0x11bf0, 0x11bf9), (0x11c00, 0x11c08), (0x11c0a, 0x11c36),
    (0x11c38, 0x11c45), (0x11c50, 0x11c6c), (0x11c70, 0x11c8f), (0x11c92, 0x11ca7),
    (0x11ca9, 0x11cb6), (0x11d00, 0x11d06), (0x11d08, 0x11d09), (0x11d0b, 0x11d36),
    (0x11d3a, 0x11d3a), (0x11d3c, 0x11d3d), (0x11d3f, 0x11d47), (0x11d50, 0x11d59),
    (0x11d60, 0x11d65), (0x11d67, 0x11d68), (0x11d6a, 0x11d8e), (0x11d90, 0x11d91),
    (0x11d93, 0x11d98), (0x11da0, 0x11da9), (0x11ee0, 0x11ef8), (0x11f00, 0x11f10),
    (0x11f12, 0x11f3a), (0x11f3e, 0x11f5a), (0x11fb0, 0x11fb0), (0x11fc0, 0x11ff1),
    (0x11fff, 0x12399), (0x12400, 0x1246e), (0x12470, 0x12474), (0x12480, 0x12543),
    (0x12f90, 0x12ff2), (0x13000, 0x13455), (0x13460, 0x143fa), (0x14400, 0x14646),
    (0x16100, 0x16139), (0x16800, 0x16a38), (0x16a40, 0x16a5e), (0x16a60, 0x16a69),
    (0x16a6e, 0x16abe), (0x16ac0, 0x16ac9), (0x16ad0, 0x16aed), (0x16af0, 0x16af5),
    (0x16b00, 0x16b45), (0x16b50, 0x16b59), (0x16b5b, 0x16b61), (0x16b63, 0x16b77),
    (0x16b7d, 0x16b8f), (0x16d40, 0x16d79), (0x16e40, 0x16e9a), (0x16f00, 0x16f4a),
    (0x16f4f, 0x16f87), (0x16f8f, 0x16f9f), (0x16fe0, 0x16fe4), (0x16ff0, 0x16ff1),
    (0x17000, 0x187f7), (0x18800, 0x18cd5), (0x18cff, 0x18d08), (0x1aff0, 0x1aff3),
    (0x1aff5, 0x1affb), (0x1affd, 0x1affe), (0x1b000, 0x1b122), (0x1b132, 0x1b132),
    (0x1b150, 0x1b152), (0x1b155, 0x1b155), (0x1b164, 0x1b167), (0x1b170, 0x1b2fb),
    (0x1bc00, 0x1bc6a), (0x1bc70, 0x1bc7c), (0x1bc80, 0x1bc88), (0x1bc90, 0x1bc99),
    (0x1bc9c, 0x1bca3), (0x1cc00, 0x1ccf9), (0x1cd00, 0x1ceb3), (0x1cf00, 0x1cf2d),
    (0x1cf30, 0x1cf46), (0x1cf50, 0x1cfc3), (0x1d000, 0x1d0f5), (0x1d100, 0x1d126),
    (0x1d129, 0x1d1ea), (0x1d200, 0x1d245), (0x1d2c0, 0x1d2d3), (0x1d2e0, 0x1d2f3),
    (0x1d300, 0x1d356), (0x1d360, 0x1d378), (0x1d400, 0x1d454), (0x1d456, 0x1d49c),
    (0x1d49e, 0x1d49f), (0x1d4a2, 0x1d4a2), (0x1d4a5, 0x1d4a6), (0x1d4a9, 0x1d4ac),
    (0x1d4ae, 0x1d4b9), (0x1d4bb, 0x1d4bb), (0x1d4bd, 0x1d4c3), (0x1d4c5, 0x1d505),
    (0x1d507, 0x1d50a), (0x1d50d, 0x1d514), (0x1d516, 0x1d51c), (0x1d51e, 0x1d539),
    (0x1d53b, 0x1d53e), (0x1d540, 0x1d544), (0x1d546, 0x1d546), (0x1d54a, 0x1d550),
    (0x1d552, 0x1d6a5), (0x1d6a8, 0x1d7cb), (0x1d7ce, 0x1da8b), (0x1da9b, 0x1da9f),
    (0x1daa1, 0x1daaf), (0x1df00, 0x1df1e), (0x1df25, 0x1df2a), (0x1e000, 0x1e006),
    (0x1e008, 0x1e018), (0x1e01b, 0x1e021), (0x1e023, 0x1e024), (0x1e026, 0x1e02a),
    (0x1e030, 0x1e06d), (0x1e08f, 0x1e08f), (0x1e100, 0x1e12c), (0x1e130, 0x1e13d),
    (0x1e140, 0x1e149), (0x1e14e, 0x1e14f), (0x1e290, 0x1e2ae), (0x1e2c0, 0x1e2f9),
    (0x1e2ff, 0x1e2ff), (0x1e4d0, 0x1e4f9), (0x1e5d0, 0x1e5fa), (0x1e5ff, 0x1e5ff),
    (0x1e7e0, 0x1e7e6), (0x1e7e8, 0x1e7eb), (0x1e7ed, 0x1e7ee), (0x1e7f0, 0x1e7fe),
    (0x1e800, 0x1e8c4), (0x1e8c7, 0x1e8d6), (0x1e900, 0x1e94b), (0x1e950, 0x1e959),
    (0x1e95e, 0x1e95f), (0x1ec71, 0x1ecb4), (0x1ed01, 0x1ed3d), (0x1ee00, 0x1ee03),
    (0x1ee05, 0x1ee1f), (0x1ee21, 0x1ee22), (0x1ee24, 0x1ee24), (0x1ee27, 0x1ee27),
    (0x1ee29, 0x1ee32), (0x1ee34, 0x1ee37), (0x1ee39, 0x1ee39), (0x1ee3b, 0x1ee3b),
    (0x1ee42, 0x1ee42), (0x1ee47, 0x1ee47), (0x1ee49, 0x1ee49), (0x1ee4b, 0x1ee4b),
    (0x1ee4d, 0x1ee4f), (0x1ee51, 0x1ee52), (0x1ee54, 0x1ee54), (0x1ee57, 0x1ee57),
    (0x1ee59, 0x1ee59), (0x1ee5b, 0x1ee5b), (0x1ee5d, 0x1ee5d), (0x1ee5f, 0x1ee5f),
    (0x1ee61, 0x1ee62), (0x1ee64, 0x1ee64), (0x1ee67, 0x1ee6a), (0x1ee6c, 0x1ee72),
    (0x1ee74, 0x1ee77), (0x1ee79, 0x1ee7c), (0x1ee7e, 0x1ee7e), (0x1ee80, 0x1ee89),
    (0x1ee8b, 0x1ee9b), (0x1eea1, 0x1eea3), (0x1eea5, 0x1eea9), (0x1eeab, 0x1eebb),
    (0x1eef0, 0x1eef1), (0x1f000, 0x1f02b), (0x1f030, 0x1f093), (0x1f0a0, 0x1f0ae),
    (0x1f0b1, 0x1f0bf), (0x1f0c1, 0x1f0cf), (0x1f0d1, 0x1f0f5), (0x1f100, 0x1f1ad),
    (0x1f1e6, 0x1f202), (0x1f210, 0x1f23b), (0x1f240, 0x1f248), (0x1f250, 0x1f251),
    (0x1f260, 0x1f265), (0x1f300, 0x1f6d7), (0x1f6dc, 0x1f6ec), (0x1f6f0, 0x1f6fc),
    (0x1f700, 0x1f776), (0x1f77b, 0x1f7d9), (0x1f7e0, 0x1f7eb), (0x1f7f0, 0x1f7f0),
    (0x1f800, 0x1f80b), (0x1f810, 0x1f847), (0x1f850, 0x1f859), (0x1f860, 0x1f887),
    (0x1f890, 0x1f8ad), (0x1f8b0, 0x1f8bb), (0x1f8c0, 0x1f8c1), (0x1f900, 0x1fa53),
    (0x1fa60, 0x1fa6d), (0x1fa70, 0x1fa7c), (0x1fa80, 0x1fa89), (0x1fa8f, 0x1fac6),
    (0x1face, 0x1fadc), (0x1fadf, 0x1fae9), (0x1faf0, 0x1faf8), (0x1fb00, 0x1fb92),
    (0x1fb94, 0x1fbf9), (0x20000, 0x2a6df), (0x2a700, 0x2b739), (0x2b740, 0x2b81d),
    (0x2b820, 0x2cea1), (0x2ceb0, 0x2ebe0), (0x2ebf0, 0x2ee5d), (0x2f800, 0x2fa1d),
    (0x30000, 0x3134a), (0x31350, 0x323af), (0xe0001, 0xe0001), (0xe0020, 0xe007f),
    (0xe0100, 0xe01ef), (0xf0000, 0xffffd), (0x100000, 0x10fffd)]

/-- The ranges in which upper-case and lower-case letters take turns, beginning with an upper-case
one. -/
def casePairRanges : List (Nat × Nat) := [
    (0x100, 0x137), (0x139, 0x148), (0x14a, 0x178), (0x1cd, 0x1dc), (0x1de, 0x1ef), (0x1f8, 0x233),
    (0x246, 0x24f), (0x3d8, 0x3ef), (0x460, 0x481), (0x48a, 0x4c0), (0x4c1, 0x4ce), (0x4d0, 0x52f),
    (0x1e00, 0x1e95), (0x1e9e, 0x1eff), (0x2c80, 0x2ce3), (0xa640, 0xa66d), (0xa680, 0xa69b),
    (0xa722, 0xa72f), (0xa732, 0xa76f), (0xa77e, 0xa787), (0xa796, 0xa7aa), (0xa7b4, 0xa7c4)]

/-- Where the general category changes below `0x2000`, ascending. -/
def firstCategoryRuns : List (Nat × Category) := [
    (0x0, .cc), (0x20, .zs), (0x21, .po), (0x24, .sc), (0x25, .po), (0x28, .ps), (0x29, .pe),
    (0x2a, .po), (0x2b, .sm), (0x2c, .po), (0x2d, .pd), (0x2e, .po), (0x30, .nd), (0x3a, .po),
    (0x3c, .sm), (0x3f, .po), (0x41, .lu), (0x5b, .ps), (0x5c, .po), (0x5d, .pe), (0x5e, .sk),
    (0x5f, .pc), (0x60, .sk), (0x61, .ll), (0x7b, .ps), (0x7c, .sm), (0x7d, .pe), (0x7e, .sm),
    (0x7f, .cc), (0xa0, .zs), (0xa1, .po), (0xa2, .sc), (0xa6, .so), (0xa7, .po), (0xa8, .sk),
    (0xa9, .so), (0xaa, .lo), (0xab, .pi), (0xac, .sm), (0xad, .cf), (0xae, .so), (0xaf, .sk),
    (0xb0, .so), (0xb1, .sm), (0xb2, .no), (0xb4, .sk), (0xb5, .ll), (0xb6, .po), (0xb8, .sk),
    (0xb9, .no), (0xba, .lo), (0xbb, .pf), (0xbc, .no), (0xbf, .po), (0xc0, .lu), (0xd7, .sm),
    (0xd8, .lu), (0xdf, .ll), (0xf7, .sm), (0xf8, .ll), (0x100, .lu), (0x138, .ll), (0x139, .lu),
    (0x149, .ll), (0x14a, .lu), (0x17a, .ll), (0x17b, .lu), (0x17c, .ll), (0x17d, .lu),
    (0x17e, .ll), (0x181, .lu), (0x183, .ll), (0x184, .lu), (0x185, .ll), (0x186, .lu),
    (0x188, .ll), (0x189, .lu), (0x18c, .ll), (0x18e, .lu), (0x192, .ll), (0x193, .lu),
    (0x195, .ll), (0x196, .lu), (0x199, .ll), (0x19c, .lu), (0x19e, .ll), (0x19f, .lu),
    (0x1a1, .ll), (0x1a2, .lu), (0x1a3, .ll), (0x1a4, .lu), (0x1a5, .ll), (0x1a6, .lu),
    (0x1a8, .ll), (0x1a9, .lu), (0x1aa, .ll), (0x1ac, .lu), (0x1ad, .ll), (0x1ae, .lu),
    (0x1b0, .ll), (0x1b1, .lu), (0x1b4, .ll), (0x1b5, .lu), (0x1b6, .ll), (0x1b7, .lu),
    (0x1b9, .ll), (0x1bb, .lo), (0x1bc, .lu), (0x1bd, .ll), (0x1c0, .lo), (0x1c4, .lu),
    (0x1c5, .lt), (0x1c6, .ll), (0x1c7, .lu), (0x1c8, .lt), (0x1c9, .ll), (0x1ca, .lu),
    (0x1cb, .lt), (0x1cc, .ll), (0x1cd, .lu), (0x1dd, .ll), (0x1de, .lu), (0x1f0, .ll),
    (0x1f1, .lu), (0x1f2, .lt), (0x1f3, .ll), (0x1f4, .lu), (0x1f5, .ll), (0x1f6, .lu),
    (0x234, .ll), (0x23a, .lu), (0x23c, .ll), (0x23d, .lu), (0x23f, .ll), (0x241, .lu),
    (0x242, .ll), (0x243, .lu), (0x250, .ll), (0x294, .lo), (0x295, .ll), (0x2b0, .lm),
    (0x2c2, .sk), (0x2c6, .lm), (0x2d2, .sk), (0x2e0, .lm), (0x2e5, .sk), (0x2ec, .lm),
    (0x2ed, .sk), (0x2ee, .lm), (0x2ef, .sk), (0x300, .mn), (0x370, .lu), (0x371, .ll),
    (0x372, .lu), (0x373, .ll), (0x374, .lm), (0x375, .sk), (0x376, .lu), (0x377, .ll),
    (0x37a, .lm), (0x37b, .ll), (0x37e, .po), (0x37f, .lu), (0x384, .sk), (0x386, .lu),
    (0x387, .po), (0x388, .lu), (0x390, .ll), (0x391, .lu), (0x3ac, .ll), (0x3cf, .lu),
    (0x3d0, .ll), (0x3d2, .lu), (0x3d5, .ll), (0x3d8, .lu), (0x3f0, .ll), (0x3f4, .lu),
    (0x3f5, .ll), (0x3f6, .sm), (0x3f7, .lu), (0x3f8, .ll), (0x3f9, .lu), (0x3fb, .ll),
    (0x3fd, .lu), (0x430, .ll), (0x460, .lu), (0x482, .so), (0x483, .mn), (0x488, .me),
    (0x48a, .lu), (0x4cf, .ll), (0x4d0, .lu), (0x559, .lm), (0x55a, .po), (0x560, .ll),
    (0x589, .po), (0x58a, .pd), (0x58d, .so), (0x58f, .sc), (0x591, .mn), (0x5be, .pd),
    (0x5bf, .mn), (0x5c0, .po), (0x5c1, .mn), (0x5c3, .po), (0x5c4, .mn), (0x5c6, .po),
    (0x5c7, .mn), (0x5d0, .lo), (0x5f3, .po), (0x600, .cf), (0x606, .sm), (0x609, .po),
    (0x60b, .sc), (0x60c, .po), (0x60e, .so), (0x610, .mn), (0x61b, .po), (0x61c, .cf),
    (0x61d, .po), (0x620, .lo), (0x640, .lm), (0x641, .lo), (0x64b, .mn), (0x660, .nd),
    (0x66a, .po), (0x66e, .lo), (0x670, .mn), (0x671, .lo), (0x6d4, .po), (0x6d5, .lo),
    (0x6d6, .mn), (0x6dd, .cf), (0x6de, .so), (0x6df, .mn), (0x6e5, .lm), (0x6e7, .mn),
    (0x6e9, .so), (0x6ea, .mn), (0x6ee, .lo), (0x6f0, .nd), (0x6fa, .lo), (0x6fd, .so),
    (0x6ff, .lo), (0x700, .po), (0x70f, .cf), (0x710, .lo), (0x711, .mn), (0x712, .lo),
    (0x730, .mn), (0x74d, .lo), (0x7a6, .mn), (0x7b1, .lo), (0x7c0, .nd), (0x7ca, .lo),
    (0x7eb, .mn), (0x7f4, .lm), (0x7f6, .so), (0x7f7, .po), (0x7fa, .lm), (0x7fd, .mn),
    (0x7fe, .sc), (0x800, .lo), (0x816, .mn), (0x81a, .lm), (0x81b, .mn), (0x824, .lm),
    (0x825, .mn), (0x828, .lm), (0x829, .mn), (0x830, .po), (0x840, .lo), (0x859, .mn),
    (0x85e, .po), (0x860, .lo), (0x888, .sk), (0x889, .lo), (0x890, .cf), (0x897, .mn),
    (0x8a0, .lo), (0x8c9, .lm), (0x8ca, .mn), (0x8e2, .cf), (0x8e3, .mn), (0x903, .mc),
    (0x904, .lo), (0x93a, .mn), (0x93b, .mc), (0x93c, .mn), (0x93d, .lo), (0x93e, .mc),
    (0x941, .mn), (0x949, .mc), (0x94d, .mn), (0x94e, .mc), (0x950, .lo), (0x951, .mn),
    (0x958, .lo), (0x962, .mn), (0x964, .po), (0x966, .nd), (0x970, .po), (0x971, .lm),
    (0x972, .lo), (0x981, .mn), (0x982, .mc), (0x985, .lo), (0x9bc, .mn), (0x9bd, .lo),
    (0x9be, .mc), (0x9c1, .mn), (0x9c7, .mc), (0x9cd, .mn), (0x9ce, .lo), (0x9d7, .mc),
    (0x9dc, .lo), (0x9e2, .mn), (0x9e6, .nd), (0x9f0, .lo), (0x9f2, .sc), (0x9f4, .no),
    (0x9fa, .so), (0x9fb, .sc), (0x9fc, .lo), (0x9fd, .po), (0x9fe, .mn), (0xa03, .mc),
    (0xa05, .lo), (0xa3c, .mn), (0xa3e, .mc), (0xa41, .mn), (0xa59, .lo), (0xa66, .nd),
    (0xa70, .mn), (0xa72, .lo), (0xa75, .mn), (0xa76, .po), (0xa81, .mn), (0xa83, .mc),
    (0xa85, .lo), (0xabc, .mn), (0xabd, .lo), (0xabe, .mc), (0xac1, .mn), (0xac9, .mc),
    (0xacd, .mn), (0xad0, .lo), (0xae2, .mn), (0xae6, .nd), (0xaf0, .po), (0xaf1, .sc),
    (0xaf9, .lo), (0xafa, .mn), (0xb02, .mc), (0xb05, .lo), (0xb3c, .mn), (0xb3d, .lo),
    (0xb3e, .mc), (0xb3f, .mn), (0xb40, .mc), (0xb41, .mn), (0xb47, .mc), (0xb4d, .mn),
    (0xb57, .mc), (0xb5c, .lo), (0xb62, .mn), (0xb66, .nd), (0xb70, .so), (0xb71, .lo),
    (0xb72, .no), (0xb82, .mn), (0xb83, .lo), (0xbbe, .mc), (0xbc0, .mn), (0xbc1, .mc),
    (0xbcd, .mn), (0xbd0, .lo), (0xbd7, .mc), (0xbe6, .nd), (0xbf0, .no), (0xbf3, .so),
    (0xbf9, .sc), (0xbfa, .so), (0xc00, .mn), (0xc01, .mc), (0xc04, .mn), (0xc05, .lo),
    (0xc3c, .mn), (0xc3d, .lo), (0xc3e, .mn), (0xc41, .mc), (0xc46, .mn), (0xc58, .lo),
    (0xc62, .mn), (0xc66, .nd), (0xc77, .po), (0xc78, .no), (0xc7f, .so), (0xc80, .lo),
    (0xc81, .mn), (0xc82, .mc), (0xc84, .po), (0xc85, .lo), (0xcbc, .mn), (0xcbd, .lo),
    (0xcbe, .mc), (0xcbf, .mn), (0xcc0, .mc), (0xcc6, .mn), (0xcc7, .mc), (0xccc, .mn),
    (0xcd5, .mc), (0xcdd, .lo), (0xce2, .mn), (0xce6, .nd), (0xcf1, .lo), (0xcf3, .mc),
    (0xd00, .mn), (0xd02, .mc), (0xd04, .lo), (0xd3b, .mn), (0xd3d, .lo), (0xd3e, .mc),
    (0xd41, .mn), (0xd46, .mc), (0xd4d, .mn), (0xd4e, .lo), (0xd4f, .so), (0xd54, .lo),
    (0xd57, .mc), (0xd58, .no), (0xd5f, .lo), (0xd62, .mn), (0xd66, .nd), (0xd70, .no),
    (0xd79, .so), (0xd7a, .lo), (0xd81, .mn), (0xd82, .mc), (0xd85, .lo), (0xdca, .mn),
    (0xdcf, .mc), (0xdd2, .mn), (0xdd8, .mc), (0xde6, .nd), (0xdf2, .mc), (0xdf4, .po),
    (0xe01, .lo), (0xe31, .mn), (0xe32, .lo), (0xe34, .mn), (0xe3f, .sc), (0xe40, .lo),
    (0xe46, .lm), (0xe47, .mn), (0xe4f, .po), (0xe50, .nd), (0xe5a, .po), (0xe81, .lo),
    (0xeb1, .mn), (0xeb2, .lo), (0xeb4, .mn), (0xebd, .lo), (0xec6, .lm), (0xec8, .mn),
    (0xed0, .nd), (0xedc, .lo), (0xf01, .so), (0xf04, .po), (0xf13, .so), (0xf14, .po),
    (0xf15, .so), (0xf18, .mn), (0xf1a, .so), (0xf20, .nd), (0xf2a, .no), (0xf34, .so),
    (0xf35, .mn), (0xf36, .so), (0xf37, .mn), (0xf38, .so), (0xf39, .mn), (0xf3a, .ps),
    (0xf3b, .pe), (0xf3c, .ps), (0xf3d, .pe), (0xf3e, .mc), (0xf40, .lo), (0xf71, .mn),
    (0xf7f, .mc), (0xf80, .mn), (0xf85, .po), (0xf86, .mn), (0xf88, .lo), (0xf8d, .mn),
    (0xfbe, .so), (0xfc6, .mn), (0xfc7, .so), (0xfd0, .po), (0xfd5, .so), (0xfd9, .po),
    (0x1000, .lo), (0x102b, .mc), (0x102d, .mn), (0x1031, .mc), (0x1032, .mn), (0x1038, .mc),
    (0x1039, .mn), (0x103b, .mc), (0x103d, .mn), (0x103f, .lo), (0x1040, .nd), (0x104a, .po),
    (0x1050, .lo), (0x1056, .mc), (0x1058, .mn), (0x105a, .lo), (0x105e, .mn), (0x1061, .lo),
    (0x1062, .mc), (0x1065, .lo), (0x1067, .mc), (0x106e, .lo), (0x1071, .mn), (0x1075, .lo),
    (0x1082, .mn), (0x1083, .mc), (0x1085, .mn), (0x1087, .mc), (0x108d, .mn), (0x108e, .lo),
    (0x108f, .mc), (0x1090, .nd), (0x109a, .mc), (0x109d, .mn), (0x109e, .so), (0x10a0, .lu),
    (0x10d0, .ll), (0x10fb, .po), (0x10fc, .lm), (0x10fd, .ll), (0x1100, .lo), (0x135d, .mn),
    (0x1360, .po), (0x1369, .no), (0x1380, .lo), (0x1390, .so), (0x13a0, .lu), (0x13f8, .ll),
    (0x1400, .pd), (0x1401, .lo), (0x166d, .so), (0x166e, .po), (0x166f, .lo), (0x1680, .zs),
    (0x1681, .lo), (0x169b, .ps), (0x169c, .pe), (0x16a0, .lo), (0x16eb, .po), (0x16ee, .nl),
    (0x16f1, .lo), (0x1712, .mn), (0x1715, .mc), (0x171f, .lo), (0x1732, .mn), (0x1734, .mc),
    (0x1735, .po), (0x1740, .lo), (0x1752, .mn), (0x1760, .lo), (0x1772, .mn), (0x1780, .lo),
    (0x17b4, .mn), (0x17b6, .mc), (0x17b7, .mn), (0x17be, .mc), (0x17c6, .mn), (0x17c7, .mc),
    (0x17c9, .mn), (0x17d4, .po), (0x17d7, .lm), (0x17d8, .po), (0x17db, .sc), (0x17dc, .lo),
    (0x17dd, .mn), (0x17e0, .nd), (0x17f0, .no), (0x1800, .po), (0x1806, .pd), (0x1807, .po),
    (0x180b, .mn), (0x180e, .cf), (0x180f, .mn), (0x1810, .nd), (0x1820, .lo), (0x1843, .lm),
    (0x1844, .lo), (0x1885, .mn), (0x1887, .lo), (0x18a9, .mn), (0x18aa, .lo), (0x1920, .mn),
    (0x1923, .mc), (0x1927, .mn), (0x1929, .mc), (0x1932, .mn), (0x1933, .mc), (0x1939, .mn),
    (0x1940, .so), (0x1944, .po), (0x1946, .nd), (0x1950, .lo), (0x19d0, .nd), (0x19da, .no),
    (0x19de, .so), (0x1a00, .lo), (0x1a17, .mn), (0x1a19, .mc), (0x1a1b, .mn), (0x1a1e, .po),
    (0x1a20, .lo), (0x1a55, .mc), (0x1a56, .mn), (0x1a57, .mc), (0x1a58, .mn), (0x1a61, .mc),
    (0x1a62, .mn), (0x1a63, .mc), (0x1a65, .mn), (0x1a6d, .mc), (0x1a73, .mn), (0x1a80, .nd),
    (0x1aa0, .po), (0x1aa7, .lm), (0x1aa8, .po), (0x1ab0, .mn), (0x1abe, .me), (0x1abf, .mn),
    (0x1b04, .mc), (0x1b05, .lo), (0x1b34, .mn), (0x1b35, .mc), (0x1b36, .mn), (0x1b3b, .mc),
    (0x1b3c, .mn), (0x1b3d, .mc), (0x1b42, .mn), (0x1b43, .mc), (0x1b45, .lo), (0x1b4e, .po),
    (0x1b50, .nd), (0x1b5a, .po), (0x1b61, .so), (0x1b6b, .mn), (0x1b74, .so), (0x1b7d, .po),
    (0x1b80, .mn), (0x1b82, .mc), (0x1b83, .lo), (0x1ba1, .mc), (0x1ba2, .mn), (0x1ba6, .mc),
    (0x1ba8, .mn), (0x1baa, .mc), (0x1bab, .mn), (0x1bae, .lo), (0x1bb0, .nd), (0x1bba, .lo),
    (0x1be6, .mn), (0x1be7, .mc), (0x1be8, .mn), (0x1bea, .mc), (0x1bed, .mn), (0x1bee, .mc),
    (0x1bef, .mn), (0x1bf2, .mc), (0x1bfc, .po), (0x1c00, .lo), (0x1c24, .mc), (0x1c2c, .mn),
    (0x1c34, .mc), (0x1c36, .mn), (0x1c3b, .po), (0x1c40, .nd), (0x1c4d, .lo), (0x1c50, .nd),
    (0x1c5a, .lo), (0x1c78, .lm), (0x1c7e, .po), (0x1c80, .ll), (0x1c89, .lu), (0x1c8a, .ll),
    (0x1c90, .lu), (0x1cc0, .po), (0x1cd0, .mn), (0x1cd3, .po), (0x1cd4, .mn), (0x1ce1, .mc),
    (0x1ce2, .mn), (0x1ce9, .lo), (0x1ced, .mn), (0x1cee, .lo), (0x1cf4, .mn), (0x1cf5, .lo),
    (0x1cf7, .mc), (0x1cf8, .mn), (0x1cfa, .lo), (0x1d00, .ll), (0x1d2c, .lm), (0x1d6b, .ll),
    (0x1d78, .lm), (0x1d79, .ll), (0x1d9b, .lm), (0x1dc0, .mn), (0x1e00, .lu), (0x1e96, .ll),
    (0x1e9e, .lu), (0x1f00, .ll), (0x1f08, .lu), (0x1f10, .ll), (0x1f18, .lu), (0x1f20, .ll),
    (0x1f28, .lu), (0x1f30, .ll), (0x1f38, .lu), (0x1f40, .ll), (0x1f48, .lu), (0x1f50, .ll),
    (0x1f59, .lu), (0x1f60, .ll), (0x1f68, .lu), (0x1f70, .ll), (0x1f88, .lt), (0x1f90, .ll),
    (0x1f98, .lt), (0x1fa0, .ll), (0x1fa8, .lt), (0x1fb0, .ll), (0x1fb8, .lu), (0x1fbc, .lt),
    (0x1fbd, .sk), (0x1fbe, .ll), (0x1fbf, .sk), (0x1fc2, .ll), (0x1fc8, .lu), (0x1fcc, .lt),
    (0x1fcd, .sk), (0x1fd0, .ll), (0x1fd8, .lu), (0x1fdd, .sk), (0x1fe0, .ll), (0x1fe8, .lu),
    (0x1fed, .sk), (0x1ff2, .ll), (0x1ff8, .lu), (0x1ffc, .lt), (0x1ffd, .sk)]

/-- Where the general category changes in the rest of the basic plane, ascending. -/
def basicCategoryRuns : List (Nat × Category) := [
    (0x2000, .zs), (0x200b, .cf), (0x2010, .pd), (0x2016, .po), (0x2018, .pi), (0x2019, .pf),
    (0x201a, .ps), (0x201b, .pi), (0x201d, .pf), (0x201e, .ps), (0x201f, .pi), (0x2020, .po),
    (0x2028, .zl), (0x2029, .zp), (0x202a, .cf), (0x202f, .zs), (0x2030, .po), (0x2039, .pi),
    (0x203a, .pf), (0x203b, .po), (0x203f, .pc), (0x2041, .po), (0x2044, .sm), (0x2045, .ps),
    (0x2046, .pe), (0x2047, .po), (0x2052, .sm), (0x2053, .po), (0x2054, .pc), (0x2055, .po),
    (0x205f, .zs), (0x2060, .cf), (0x2070, .no), (0x2071, .lm), (0x2074, .no), (0x207a, .sm),
    (0x207d, .ps), (0x207e, .pe), (0x207f, .lm), (0x2080, .no), (0x208a, .sm), (0x208d, .ps),
    (0x208e, .pe), (0x2090, .lm), (0x20a0, .sc), (0x20d0, .mn), (0x20dd, .me), (0x20e1, .mn),
    (0x20e2, .me), (0x20e5, .mn), (0x2100, .so), (0x2102, .lu), (0x2103, .so), (0x2107, .lu),
    (0x2108, .so), (0x210a, .ll), (0x210b, .lu), (0x210e, .ll), (0x2110, .lu), (0x2113, .ll),
    (0x2114, .so), (0x2115, .lu), (0x2116, .so), (0x2118, .sm), (0x2119, .lu), (0x211e, .so),
    (0x2124, .lu), (0x2125, .so), (0x2126, .lu), (0x2127, .so), (0x2128, .lu), (0x2129, .so),
    (0x212a, .lu), (0x212e, .so), (0x212f, .ll), (0x2130, .lu), (0x2134, .ll), (0x2135, .lo),
    (0x2139, .ll), (0x213a, .so), (0x213c, .ll), (0x213e, .lu), (0x2140, .sm), (0x2145, .lu),
    (0x2146, .ll), (0x214a, .so), (0x214b, .sm), (0x214c, .so), (0x214e, .ll), (0x214f, .so),
    (0x2150, .no), (0x2160, .nl), (0x2183, .lu), (0x2184, .ll), (0x2185, .nl), (0x2189, .no),
    (0x218a, .so), (0x2190, .sm), (0x2195, .so), (0x219a, .sm), (0x219c, .so), (0x21a0, .sm),
    (0x21a1, .so), (0x21a3, .sm), (0x21a4, .so), (0x21a6, .sm), (0x21a7, .so), (0x21ae, .sm),
    (0x21af, .so), (0x21ce, .sm), (0x21d0, .so), (0x21d2, .sm), (0x21d3, .so), (0x21d4, .sm),
    (0x21d5, .so), (0x21f4, .sm), (0x2300, .so), (0x2308, .ps), (0x2309, .pe), (0x230a, .ps),
    (0x230b, .pe), (0x230c, .so), (0x2320, .sm), (0x2322, .so), (0x2329, .ps), (0x232a, .pe),
    (0x232b, .so), (0x237c, .sm), (0x237d, .so), (0x239b, .sm), (0x23b4, .so), (0x23dc, .sm),
    (0x23e2, .so), (0x2460, .no), (0x249c, .so), (0x24ea, .no), (0x2500, .so), (0x25b7, .sm),
    (0x25b8, .so), (0x25c1, .sm), (0x25c2, .so), (0x25f8, .sm), (0x2600, .so), (0x266f, .sm),
    (0x2670, .so), (0x2768, .ps), (0x2769, .pe), (0x276a, .ps), (0x276b, .pe), (0x276c, .ps),
    (0x276d, .pe), (0x276e, .ps), (0x276f, .pe), (0x2770, .ps), (0x2771, .pe), (0x2772, .ps),
    (0x2773, .pe), (0x2774, .ps), (0x2775, .pe), (0x2776, .no), (0x2794, .so), (0x27c0, .sm),
    (0x27c5, .ps), (0x27c6, .pe), (0x27c7, .sm), (0x27e6, .ps), (0x27e7, .pe), (0x27e8, .ps),
    (0x27e9, .pe), (0x27ea, .ps), (0x27eb, .pe), (0x27ec, .ps), (0x27ed, .pe), (0x27ee, .ps),
    (0x27ef, .pe), (0x27f0, .sm), (0x2800, .so), (0x2900, .sm), (0x2983, .ps), (0x2984, .pe),
    (0x2985, .ps), (0x2986, .pe), (0x2987, .ps), (0x2988, .pe), (0x2989, .ps), (0x298a, .pe),
    (0x298b, .ps), (0x298c, .pe), (0x298d, .ps), (0x298e, .pe), (0x298f, .ps), (0x2990, .pe),
    (0x2991, .ps), (0x2992, .pe), (0x2993, .ps), (0x2994, .pe), (0x2995, .ps), (0x2996, .pe),
    (0x2997, .ps), (0x2998, .pe), (0x2999, .sm), (0x29d8, .ps), (0x29d9, .pe), (0x29da, .ps),
    (0x29db, .pe), (0x29dc, .sm), (0x29fc, .ps), (0x29fd, .pe), (0x29fe, .sm), (0x2b00, .so),
    (0x2b30, .sm), (0x2b45, .so), (0x2b47, .sm), (0x2b4d, .so), (0x2c00, .lu), (0x2c30, .ll),
    (0x2c60, .lu), (0x2c61, .ll), (0x2c62, .lu), (0x2c65, .ll), (0x2c67, .lu), (0x2c68, .ll),
    (0x2c69, .lu), (0x2c6a, .ll), (0x2c6b, .lu), (0x2c6c, .ll), (0x2c6d, .lu), (0x2c71, .ll),
    (0x2c72, .lu), (0x2c73, .ll), (0x2c75, .lu), (0x2c76, .ll), (0x2c7c, .lm), (0x2c7e, .lu),
    (0x2ce4, .ll), (0x2ce5, .so), (0x2ceb, .lu), (0x2cec, .ll), (0x2ced, .lu), (0x2cee, .ll),
    (0x2cef, .mn), (0x2cf2, .lu), (0x2cf3, .ll), (0x2cf9, .po), (0x2cfd, .no), (0x2cfe, .po),
    (0x2d00, .ll), (0x2d30, .lo), (0x2d6f, .lm), (0x2d70, .po), (0x2d7f, .mn), (0x2d80, .lo),
    (0x2de0, .mn), (0x2e00, .po), (0x2e02, .pi), (0x2e03, .pf), (0x2e04, .pi), (0x2e05, .pf),
    (0x2e06, .po), (0x2e09, .pi), (0x2e0a, .pf), (0x2e0b, .po), (0x2e0c, .pi), (0x2e0d, .pf),
    (0x2e0e, .po), (0x2e17, .pd), (0x2e18, .po), (0x2e1a, .pd), (0x2e1b, .po), (0x2e1c, .pi),
    (0x2e1d, .pf), (0x2e1e, .po), (0x2e20, .pi), (0x2e21, .pf), (0x2e22, .ps), (0x2e23, .pe),
    (0x2e24, .ps), (0x2e25, .pe), (0x2e26, .ps), (0x2e27, .pe), (0x2e28, .ps), (0x2e29, .pe),
    (0x2e2a, .po), (0x2e2f, .lm), (0x2e30, .po), (0x2e3a, .pd), (0x2e3c, .po), (0x2e40, .pd),
    (0x2e41, .po), (0x2e42, .ps), (0x2e43, .po), (0x2e50, .so), (0x2e52, .po), (0x2e55, .ps),
    (0x2e56, .pe), (0x2e57, .ps), (0x2e58, .pe), (0x2e59, .ps), (0x2e5a, .pe), (0x2e5b, .ps),
    (0x2e5c, .pe), (0x2e5d, .pd), (0x2e80, .so), (0x3000, .zs), (0x3001, .po), (0x3004, .so),
    (0x3005, .lm), (0x3006, .lo), (0x3007, .nl), (0x3008, .ps), (0x3009, .pe), (0x300a, .ps),
    (0x300b, .pe), (0x300c, .ps), (0x300d, .pe), (0x300e, .ps), (0x300f, .pe), (0x3010, .ps),
    (0x3011, .pe), (0x3012, .so), (0x3014, .ps), (0x3015, .pe), (0x3016, .ps), (0x3017, .pe),
    (0x3018, .ps), (0x3019, .pe), (0x301a, .ps), (0x301b, .pe), (0x301c, .pd), (0x301d, .ps),
    (0x301e, .pe), (0x3020, .so), (0x3021, .nl), (0x302a, .mn), (0x302e, .mc), (0x3030, .pd),
    (0x3031, .lm), (0x3036, .so), (0x3038, .nl), (0x303b, .lm), (0x303c, .lo), (0x303d, .po),
    (0x303e, .so), (0x3041, .lo), (0x3099, .mn), (0x309b, .sk), (0x309d, .lm), (0x309f, .lo),
    (0x30a0, .pd), (0x30a1, .lo), (0x30fb, .po), (0x30fc, .lm), (0x30ff, .lo), (0x3190, .so),
    (0x3192, .no), (0x3196, .so), (0x31a0, .lo), (0x31c0, .so), (0x31f0, .lo), (0x3200, .so),
    (0x3220, .no), (0x322a, .so), (0x3248, .no), (0x3250, .so), (0x3251, .no), (0x3260, .so),
    (0x3280, .no), (0x328a, .so), (0x32b1, .no), (0x32c0, .so), (0x3400, .lo), (0x4dc0, .so),
    (0x4e00, .lo), (0xa015, .lm), (0xa016, .lo), (0xa490, .so), (0xa4d0, .lo), (0xa4f8, .lm),
    (0xa4fe, .po), (0xa500, .lo), (0xa60c, .lm), (0xa60d, .po), (0xa610, .lo), (0xa620, .nd),
    (0xa62a, .lo), (0xa640, .lu), (0xa66e, .lo), (0xa66f, .mn), (0xa670, .me), (0xa673, .po),
    (0xa674, .mn), (0xa67e, .po), (0xa67f, .lm), (0xa680, .lu), (0xa69c, .lm), (0xa69e, .mn),
    (0xa6a0, .lo), (0xa6e6, .nl), (0xa6f0, .mn), (0xa6f2, .po), (0xa700, .sk), (0xa717, .lm),
    (0xa720, .sk), (0xa722, .lu), (0xa730, .ll), (0xa732, .lu), (0xa770, .lm), (0xa771, .ll),
    (0xa779, .lu), (0xa77a, .ll), (0xa77b, .lu), (0xa77c, .ll), (0xa77d, .lu), (0xa788, .lm),
    (0xa789, .sk), (0xa78b, .lu), (0xa78c, .ll), (0xa78d, .lu), (0xa78e, .ll), (0xa78f, .lo),
    (0xa790, .lu), (0xa791, .ll), (0xa792, .lu), (0xa793, .ll), (0xa796, .lu), (0xa7af, .ll),
    (0xa7b0, .lu), (0xa7c8, .ll), (0xa7c9, .lu), (0xa7ca, .ll), (0xa7cb, .lu), (0xa7cd, .ll),
    (0xa7d0, .lu), (0xa7d1, .ll), (0xa7d6, .lu), (0xa7d7, .ll), (0xa7d8, .lu), (0xa7d9, .ll),
    (0xa7da, .lu), (0xa7db, .ll), (0xa7dc, .lu), (0xa7f2, .lm), (0xa7f5, .lu), (0xa7f6, .ll),
    (0xa7f7, .lo), (0xa7f8, .lm), (0xa7fa, .ll), (0xa7fb, .lo), (0xa802, .mn), (0xa803, .lo),
    (0xa806, .mn), (0xa807, .lo), (0xa80b, .mn), (0xa80c, .lo), (0xa823, .mc), (0xa825, .mn),
    (0xa827, .mc), (0xa828, .so), (0xa82c, .mn), (0xa830, .no), (0xa836, .so), (0xa838, .sc),
    (0xa839, .so), (0xa840, .lo), (0xa874, .po), (0xa880, .mc), (0xa882, .lo), (0xa8b4, .mc),
    (0xa8c4, .mn), (0xa8ce, .po), (0xa8d0, .nd), (0xa8e0, .mn), (0xa8f2, .lo), (0xa8f8, .po),
    (0xa8fb, .lo), (0xa8fc, .po), (0xa8fd, .lo), (0xa8ff, .mn), (0xa900, .nd), (0xa90a, .lo),
    (0xa926, .mn), (0xa92e, .po), (0xa930, .lo), (0xa947, .mn), (0xa952, .mc), (0xa95f, .po),
    (0xa960, .lo), (0xa980, .mn), (0xa983, .mc), (0xa984, .lo), (0xa9b3, .mn), (0xa9b4, .mc),
    (0xa9b6, .mn), (0xa9ba, .mc), (0xa9bc, .mn), (0xa9be, .mc), (0xa9c1, .po), (0xa9cf, .lm),
    (0xa9d0, .nd), (0xa9de, .po), (0xa9e0, .lo), (0xa9e5, .mn), (0xa9e6, .lm), (0xa9e7, .lo),
    (0xa9f0, .nd), (0xa9fa, .lo), (0xaa29, .mn), (0xaa2f, .mc), (0xaa31, .mn), (0xaa33, .mc),
    (0xaa35, .mn), (0xaa40, .lo), (0xaa43, .mn), (0xaa44, .lo), (0xaa4c, .mn), (0xaa4d, .mc),
    (0xaa50, .nd), (0xaa5c, .po), (0xaa60, .lo), (0xaa70, .lm), (0xaa71, .lo), (0xaa77, .so),
    (0xaa7a, .lo), (0xaa7b, .mc), (0xaa7c, .mn), (0xaa7d, .mc), (0xaa7e, .lo), (0xaab0, .mn),
    (0xaab1, .lo), (0xaab2, .mn), (0xaab5, .lo), (0xaab7, .mn), (0xaab9, .lo), (0xaabe, .mn),
    (0xaac0, .lo), (0xaac1, .mn), (0xaac2, .lo), (0xaadd, .lm), (0xaade, .po), (0xaae0, .lo),
    (0xaaeb, .mc), (0xaaec, .mn), (0xaaee, .mc), (0xaaf0, .po), (0xaaf2, .lo), (0xaaf3, .lm),
    (0xaaf5, .mc), (0xaaf6, .mn), (0xab01, .lo), (0xab30, .ll), (0xab5b, .sk), (0xab5c, .lm),
    (0xab60, .ll), (0xab69, .lm), (0xab6a, .sk), (0xab70, .ll), (0xabc0, .lo), (0xabe3, .mc),
    (0xabe5, .mn), (0xabe6, .mc), (0xabe8, .mn), (0xabe9, .mc), (0xabeb, .po), (0xabec, .mc),
    (0xabed, .mn), (0xabf0, .nd), (0xac00, .lo), (0xd800, .cs), (0xe000, .co), (0xf900, .lo),
    (0xfb00, .ll), (0xfb1d, .lo), (0xfb1e, .mn), (0xfb1f, .lo), (0xfb29, .sm), (0xfb2a, .lo),
    (0xfbb2, .sk), (0xfbd3, .lo), (0xfd3e, .pe), (0xfd3f, .ps), (0xfd40, .so), (0xfd50, .lo),
    (0xfdcf, .so), (0xfdf0, .lo), (0xfdfc, .sc), (0xfdfd, .so), (0xfe00, .mn), (0xfe10, .po),
    (0xfe17, .ps), (0xfe18, .pe), (0xfe19, .po), (0xfe20, .mn), (0xfe30, .po), (0xfe31, .pd),
    (0xfe33, .pc), (0xfe35, .ps), (0xfe36, .pe), (0xfe37, .ps), (0xfe38, .pe), (0xfe39, .ps),
    (0xfe3a, .pe), (0xfe3b, .ps), (0xfe3c, .pe), (0xfe3d, .ps), (0xfe3e, .pe), (0xfe3f, .ps),
    (0xfe40, .pe), (0xfe41, .ps), (0xfe42, .pe), (0xfe43, .ps), (0xfe44, .pe), (0xfe45, .po),
    (0xfe47, .ps), (0xfe48, .pe), (0xfe49, .po), (0xfe4d, .pc), (0xfe50, .po), (0xfe58, .pd),
    (0xfe59, .ps), (0xfe5a, .pe), (0xfe5b, .ps), (0xfe5c, .pe), (0xfe5d, .ps), (0xfe5e, .pe),
    (0xfe5f, .po), (0xfe62, .sm), (0xfe63, .pd), (0xfe64, .sm), (0xfe68, .po), (0xfe69, .sc),
    (0xfe6a, .po), (0xfe70, .lo), (0xfeff, .cf), (0xff01, .po), (0xff04, .sc), (0xff05, .po),
    (0xff08, .ps), (0xff09, .pe), (0xff0a, .po), (0xff0b, .sm), (0xff0c, .po), (0xff0d, .pd),
    (0xff0e, .po), (0xff10, .nd), (0xff1a, .po), (0xff1c, .sm), (0xff1f, .po), (0xff21, .lu),
    (0xff3b, .ps), (0xff3c, .po), (0xff3d, .pe), (0xff3e, .sk), (0xff3f, .pc), (0xff40, .sk),
    (0xff41, .ll), (0xff5b, .ps), (0xff5c, .sm), (0xff5d, .pe), (0xff5e, .sm), (0xff5f, .ps),
    (0xff60, .pe), (0xff61, .po), (0xff62, .ps), (0xff63, .pe), (0xff64, .po), (0xff66, .lo),
    (0xff70, .lm), (0xff71, .lo), (0xff9e, .lm), (0xffa0, .lo), (0xffe0, .sc), (0xffe2, .sm),
    (0xffe3, .sk), (0xffe4, .so), (0xffe5, .sc), (0xffe8, .so), (0xffe9, .sm), (0xffed, .so),
    (0xfff9, .cf), (0xfffc, .so)]

/-- Where the general category changes beyond the basic plane, ascending. -/
def supplementaryCategoryRuns : List (Nat × Category) := [
    (0x10000, .lo), (0x10100, .po), (0x10107, .no), (0x10137, .so), (0x10140, .nl), (0x10175, .no),
    (0x10179, .so), (0x1018a, .no), (0x1018c, .so), (0x101fd, .mn), (0x10280, .lo), (0x102e0, .mn),
    (0x102e1, .no), (0x10300, .lo), (0x10320, .no), (0x1032d, .lo), (0x10341, .nl), (0x10342, .lo),
    (0x1034a, .nl), (0x10350, .lo), (0x10376, .mn), (0x10380, .lo), (0x1039f, .po), (0x103a0, .lo),
    (0x103d0, .po), (0x103d1, .nl), (0x10400, .lu), (0x10428, .ll), (0x10450, .lo), (0x104a0, .nd),
    (0x104b0, .lu), (0x104d8, .ll), (0x10500, .lo), (0x1056f, .po), (0x10570, .lu), (0x10597, .ll),
    (0x105c0, .lo), (0x10780, .lm), (0x10800, .lo), (0x10857, .po), (0x10858, .no), (0x10860, .lo),
    (0x10877, .so), (0x10879, .no), (0x10880, .lo), (0x108a7, .no), (0x108e0, .lo), (0x108fb, .no),
    (0x10900, .lo), (0x10916, .no), (0x1091f, .po), (0x10920, .lo), (0x1093f, .po), (0x10980, .lo),
    (0x109bc, .no), (0x109be, .lo), (0x109c0, .no), (0x10a00, .lo), (0x10a01, .mn), (0x10a10, .lo),
    (0x10a38, .mn), (0x10a40, .no), (0x10a50, .po), (0x10a60, .lo), (0x10a7d, .no), (0x10a7f, .po),
    (0x10a80, .lo), (0x10a9d, .no), (0x10ac0, .lo), (0x10ac8, .so), (0x10ac9, .lo), (0x10ae5, .mn),
    (0x10aeb, .no), (0x10af0, .po), (0x10b00, .lo), (0x10b39, .po), (0x10b40, .lo), (0x10b58, .no),
    (0x10b60, .lo), (0x10b78, .no), (0x10b80, .lo), (0x10b99, .po), (0x10ba9, .no), (0x10c00, .lo),
    (0x10c80, .lu), (0x10cc0, .ll), (0x10cfa, .no), (0x10d00, .lo), (0x10d24, .mn), (0x10d30, .nd),
    (0x10d4a, .lo), (0x10d4e, .lm), (0x10d4f, .lo), (0x10d50, .lu), (0x10d69, .mn), (0x10d6e, .pd),
    (0x10d6f, .lm), (0x10d70, .ll), (0x10d8e, .sm), (0x10e60, .no), (0x10e80, .lo), (0x10eab, .mn),
    (0x10ead, .pd), (0x10eb0, .lo), (0x10efc, .mn), (0x10f00, .lo), (0x10f1d, .no), (0x10f27, .lo),
    (0x10f46, .mn), (0x10f51, .no), (0x10f55, .po), (0x10f70, .lo), (0x10f82, .mn), (0x10f86, .po),
    (0x10fb0, .lo), (0x10fc5, .no), (0x10fe0, .lo), (0x11000, .mc), (0x11001, .mn), (0x11002, .mc),
    (0x11003, .lo), (0x11038, .mn), (0x11047, .po), (0x11052, .no), (0x11066, .nd), (0x11070, .mn),
    (0x11071, .lo), (0x11073, .mn), (0x11075, .lo), (0x1107f, .mn), (0x11082, .mc), (0x11083, .lo),
    (0x110b0, .mc), (0x110b3, .mn), (0x110b7, .mc), (0x110b9, .mn), (0x110bb, .po), (0x110bd, .cf),
    (0x110be, .po), (0x110c2, .mn), (0x110cd, .cf), (0x110d0, .lo), (0x110f0, .nd), (0x11100, .mn),
    (0x11103, .lo), (0x11127, .mn), (0x1112c, .mc), (0x1112d, .mn), (0x11136, .nd), (0x11140, .po),
    (0x11144, .lo), (0x11145, .mc), (0x11147, .lo), (0x11173, .mn), (0x11174, .po), (0x11176, .lo),
    (0x11180, .mn), (0x11182, .mc), (0x11183, .lo), (0x111b3, .mc), (0x111b6, .mn), (0x111bf, .mc),
    (0x111c1, .lo), (0x111c5, .po), (0x111c9, .mn), (0x111cd, .po), (0x111ce, .mc), (0x111cf, .mn),
    (0x111d0, .nd), (0x111da, .lo), (0x111db, .po), (0x111dc, .lo), (0x111dd, .po), (0x111e1, .no),
    (0x11200, .lo), (0x1122c, .mc), (0x1122f, .mn), (0x11232, .mc), (0x11234, .mn), (0x11235, .mc),
    (0x11236, .mn), (0x11238, .po), (0x1123e, .mn), (0x1123f, .lo), (0x11241, .mn), (0x11280, .lo),
    (0x112a9, .po), (0x112b0, .lo), (0x112df, .mn), (0x112e0, .mc), (0x112e3, .mn), (0x112f0, .nd),
    (0x11300, .mn), (0x11302, .mc), (0x11305, .lo), (0x1133b, .mn), (0x1133d, .lo), (0x1133e, .mc),
    (0x11340, .mn), (0x11341, .mc), (0x11350, .lo), (0x11357, .mc), (0x1135d, .lo), (0x11362, .mc),
    (0x11366, .mn), (0x11380, .lo), (0x113b8, .mc), (0x113bb, .mn), (0x113c2, .mc), (0x113ce, .mn),
    (0x113cf, .mc), (0x113d0, .mn), (0x113d1, .lo), (0x113d2, .mn), (0x113d3, .lo), (0x113d4, .po),
    (0x113e1, .mn), (0x11400, .lo), (0x11435, .mc), (0x11438, .mn), (0x11440, .mc), (0x11442, .mn),
    (0x11445, .mc), (0x11446, .mn), (0x11447, .lo), (0x1144b, .po), (0x11450, .nd), (0x1145a, .po),
    (0x1145e, .mn), (0x1145f, .lo), (0x114b0, .mc), (0x114b3, .mn), (0x114b9, .mc), (0x114ba, .mn),
    (0x114bb, .mc), (0x114bf, .mn), (0x114c1, .mc), (0x114c2, .mn), (0x114c4, .lo), (0x114c6, .po),
    (0x114c7, .lo), (0x114d0, .nd), (0x11580, .lo), (0x115af, .mc), (0x115b2, .mn), (0x115b8, .mc),
    (0x115bc, .mn), (0x115be, .mc), (0x115bf, .mn), (0x115c1, .po), (0x115d8, .lo), (0x115dc, .mn),
    (0x11600, .lo), (0x11630, .mc), (0x11633, .mn), (0x1163b, .mc), (0x1163d, .mn), (0x1163e, .mc),
    (0x1163f, .mn), (0x11641, .po), (0x11644, .lo), (0x11650, .nd), (0x11660, .po), (0x11680, .lo),
    (0x116ab, .mn), (0x116ac, .mc), (0x116ad, .mn), (0x116ae, .mc), (0x116b0, .mn), (0x116b6, .mc),
    (0x116b7, .mn), (0x116b8, .lo), (0x116b9, .po), (0x116c0, .nd), (0x11700, .lo), (0x1171d, .mn),
    (0x1171e, .mc), (0x1171f, .mn), (0x11720, .mc), (0x11722, .mn), (0x11726, .mc), (0x11727, .mn),
    (0x11730, .nd), (0x1173a, .no), (0x1173c, .po), (0x1173f, .so), (0x11740, .lo), (0x1182c, .mc),
    (0x1182f, .mn), (0x11838, .mc), (0x11839, .mn), (0x1183b, .po), (0x118a0, .lu), (0x118c0, .ll),
    (0x118e0, .nd), (0x118ea, .no), (0x118ff, .lo), (0x11930, .mc), (0x1193b, .mn), (0x1193d, .mc),
    (0x1193e, .mn), (0x1193f, .lo), (0x11940, .mc), (0x11941, .lo), (0x11942, .mc), (0x11943, .mn),
    (0x11944, .po), (0x11950, .nd), (0x119a0, .lo), (0x119d1, .mc), (0x119d4, .mn), (0x119dc, .mc),
    (0x119e0, .mn), (0x119e1, .lo), (0x119e2, .po), (0x119e3, .lo), (0x119e4, .mc), (0x11a00, .lo),
    (0x11a01, .mn), (0x11a0b, .lo), (0x11a33, .mn), (0x11a39, .mc), (0x11a3a, .lo), (0x11a3b, .mn),
    (0x11a3f, .po), (0x11a47, .mn), (0x11a50, .lo), (0x11a51, .mn), (0x11a57, .mc), (0x11a59, .mn),
    (0x11a5c, .lo), (0x11a8a, .mn), (0x11a97, .mc), (0x11a98, .mn), (0x11a9a, .po), (0x11a9d, .lo),
    (0x11a9e, .po), (0x11ab0, .lo), (0x11b00, .po), (0x11bc0, .lo), (0x11be1, .po), (0x11bf0, .nd),
    (0x11c00, .lo), (0x11c2f, .mc), (0x11c30, .mn), (0x11c3e, .mc), (0x11c3f, .mn), (0x11c40, .lo),
    (0x11c41, .po), (0x11c50, .nd), (0x11c5a, .no), (0x11c70, .po), (0x11c72, .lo), (0x11c92, .mn),
    (0x11ca9, .mc), (0x11caa, .mn), (0x11cb1, .mc), (0x11cb2, .mn), (0x11cb4, .mc), (0x11cb5, .mn),
    (0x11d00, .lo), (0x11d31, .mn), (0x11d46, .lo), (0x11d47, .mn), (0x11d50, .nd), (0x11d60, .lo),
    (0x11d8a, .mc), (0x11d90, .mn), (0x11d93, .mc), (0x11d95, .mn), (0x11d96, .mc), (0x11d97, .mn),
    (0x11d98, .lo), (0x11da0, .nd), (0x11ee0, .lo), (0x11ef3, .mn), (0x11ef5, .mc), (0x11ef7, .po),
    (0x11f00, .mn), (0x11f02, .lo), (0x11f03, .mc), (0x11f04, .lo), (0x11f34, .mc), (0x11f36, .mn),
    (0x11f3e, .mc), (0x11f40, .mn), (0x11f41, .mc), (0x11f42, .mn), (0x11f43, .po), (0x11f50, .nd),
    (0x11f5a, .mn), (0x11fb0, .lo), (0x11fc0, .no), (0x11fd5, .so), (0x11fdd, .sc), (0x11fe1, .so),
    (0x11fff, .po), (0x12000, .lo), (0x12400, .nl), (0x12470, .po), (0x12480, .lo), (0x12ff1, .po),
    (0x13000, .lo), (0x13430, .cf), (0x13440, .mn), (0x13441, .lo), (0x13447, .mn), (0x13460, .lo),
    (0x1611e, .mn), (0x1612a, .mc), (0x1612d, .mn), (0x16130, .nd), (0x16800, .lo), (0x16a60, .nd),
    (0x16a6e, .po), (0x16a70, .lo), (0x16ac0, .nd), (0x16ad0, .lo), (0x16af0, .mn), (0x16af5, .po),
    (0x16b00, .lo), (0x16b30, .mn), (0x16b37, .po), (0x16b3c, .so), (0x16b40, .lm), (0x16b44, .po),
    (0x16b45, .so), (0x16b50, .nd), (0x16b5b, .no), (0x16b63, .lo), (0x16d40, .lm), (0x16d43, .lo),
    (0x16d6b, .lm), (0x16d6d, .po), (0x16d70, .nd), (0x16e40, .lu), (0x16e60, .ll), (0x16e80, .no),
    (0x16e97, .po), (0x16f00, .lo), (0x16f4f, .mn), (0x16f50, .lo), (0x16f51, .mc), (0x16f8f, .mn),
    (0x16f93, .lm), (0x16fe2, .po), (0x16fe3, .lm), (0x16fe4, .mn), (0x16ff0, .mc), (0x17000, .lo),
    (0x1aff0, .lm), (0x1b000, .lo), (0x1bc9c, .so), (0x1bc9d, .mn), (0x1bc9f, .po), (0x1bca0, .cf),
    (0x1cc00, .so), (0x1ccf0, .nd), (0x1cd00, .so), (0x1cf00, .mn), (0x1cf50, .so), (0x1d165, .mc),
    (0x1d167, .mn), (0x1d16a, .so), (0x1d16d, .mc), (0x1d173, .cf), (0x1d17b, .mn), (0x1d183, .so),
    (0x1d185, .mn), (0x1d18c, .so), (0x1d1aa, .mn), (0x1d1ae, .so), (0x1d242, .mn), (0x1d245, .so),
    (0x1d2c0, .no), (0x1d300, .so), (0x1d360, .no), (0x1d400, .lu), (0x1d41a, .ll), (0x1d434, .lu),
    (0x1d44e, .ll), (0x1d468, .lu), (0x1d482, .ll), (0x1d49c, .lu), (0x1d4b6, .ll), (0x1d4d0, .lu),
    (0x1d4ea, .ll), (0x1d504, .lu), (0x1d51e, .ll), (0x1d538, .lu), (0x1d552, .ll), (0x1d56c, .lu),
    (0x1d586, .ll), (0x1d5a0, .lu), (0x1d5ba, .ll), (0x1d5d4, .lu), (0x1d5ee, .ll), (0x1d608, .lu),
    (0x1d622, .ll), (0x1d63c, .lu), (0x1d656, .ll), (0x1d670, .lu), (0x1d68a, .ll), (0x1d6a8, .lu),
    (0x1d6c1, .sm), (0x1d6c2, .ll), (0x1d6db, .sm), (0x1d6dc, .ll), (0x1d6e2, .lu), (0x1d6fb, .sm),
    (0x1d6fc, .ll), (0x1d715, .sm), (0x1d716, .ll), (0x1d71c, .lu), (0x1d735, .sm), (0x1d736, .ll),
    (0x1d74f, .sm), (0x1d750, .ll), (0x1d756, .lu), (0x1d76f, .sm), (0x1d770, .ll), (0x1d789, .sm),
    (0x1d78a, .ll), (0x1d790, .lu), (0x1d7a9, .sm), (0x1d7aa, .ll), (0x1d7c3, .sm), (0x1d7c4, .ll),
    (0x1d7ca, .lu), (0x1d7cb, .ll), (0x1d7ce, .nd), (0x1d800, .so), (0x1da00, .mn), (0x1da37, .so),
    (0x1da3b, .mn), (0x1da6d, .so), (0x1da75, .mn), (0x1da76, .so), (0x1da84, .mn), (0x1da85, .so),
    (0x1da87, .po), (0x1da9b, .mn), (0x1df00, .ll), (0x1df0a, .lo), (0x1df0b, .ll), (0x1e000, .mn),
    (0x1e030, .lm), (0x1e08f, .mn), (0x1e100, .lo), (0x1e130, .mn), (0x1e137, .lm), (0x1e140, .nd),
    (0x1e14e, .lo), (0x1e14f, .so), (0x1e290, .lo), (0x1e2ae, .mn), (0x1e2c0, .lo), (0x1e2ec, .mn),
    (0x1e2f0, .nd), (0x1e2ff, .sc), (0x1e4d0, .lo), (0x1e4eb, .lm), (0x1e4ec, .mn), (0x1e4f0, .nd),
    (0x1e5d0, .lo), (0x1e5ee, .mn), (0x1e5f0, .lo), (0x1e5f1, .nd), (0x1e5ff, .po), (0x1e7e0, .lo),
    (0x1e8c7, .no), (0x1e8d0, .mn), (0x1e900, .lu), (0x1e922, .ll), (0x1e944, .mn), (0x1e94b, .lm),
    (0x1e950, .nd), (0x1e95e, .po), (0x1ec71, .no), (0x1ecac, .so), (0x1ecad, .no), (0x1ecb0, .sc),
    (0x1ecb1, .no), (0x1ed2e, .so), (0x1ed2f, .no), (0x1ee00, .lo), (0x1eef0, .sm), (0x1f000, .so),
    (0x1f100, .no), (0x1f10d, .so), (0x1f3fb, .sk), (0x1f400, .so), (0x1fbf0, .nd), (0x20000, .lo),
    (0xe0001, .cf), (0xe0100, .mn), (0xf0000, .co)]

/-- Where the general category changes, ascending: every assigned code point is of the category that
is given last before it or at it. Where letters take turns, the upper-case category stands for both.
-/
def categoryRuns : List (Nat × Category) :=
  firstCategoryRuns ++ basicCategoryRuns ++ supplementaryCategoryRuns

end Text

end TypedCollections
