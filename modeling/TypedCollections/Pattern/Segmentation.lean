import TypedCollections.Pattern.Property
/-!
# Sets of characters by their part in segmentation

The characters by what they mean to the boundaries of user-perceived characters, words and
sentences.
-/

namespace TypedCollections

namespace CharSet

/-- The marks and modifiers that never begin a user-perceived character. -/
def extending (categories : List Text.Category) : CharSet :=
  ofParts (categories ++ [.mn, .me]) (emojiModifiers ++ Text.otherGraphemeExtendRanges) []

/-- The tags, which are formats that extend what is before them. -/
def tags : Nat × Nat := (0xe0020, 0xe007f)

/-- The Hangul syllables without a final consonant. -/
def openSyllables : List (Nat × Nat) :=
  (List.range 399).map fun i => (0xac00 + 28 * i, 0xac00 + 28 * i)

/-- The characters of a kind that the boundaries of user-perceived characters tell apart. -/
def graphemeBreak? (name : String) : Option CharSet :=
  match name with
  | "cr" => some (ofRanges [(0xd, 0xd)])
  | "lf" => some (ofRanges [(0xa, 0xa)])
  | "cn" | "control" =>
      some <| ofParts [.zl, .zp, .cc, .cf]
        [(0x2065, 0x2065), (0xfff0, 0xfff8), (0xe0000, 0xe0000), (0xe0002, 0xe001f),
          (0xe0080, 0xe00ff), (0xe01f0, 0xe0fff)]
        ((0xa, 0xa) :: (0xd, 0xd) :: (0x200c, 0x200d) :: tags :: Text.prependedMarkRanges)
  | "ex" | "extend" => some (extending [])
  | "zwj" => some (ofRanges [(0x200d, 0x200d)])
  | "ri" | "regionalindicator" => some (ofRanges regionalIndicators)
  | "pp" | "prepend" =>
      some <| ofMixedRanges <|
        [(0xd4e, 0xd4e), (0x111c2, 0x111c3), (0x113d1, 0x113d1), (0x1193f, 0x1193f),
          (0x11941, 0x11941), (0x11a3a, 0x11a3a), (0x11a84, 0x11a89), (0x11d46, 0x11d46),
          (0x11f02, 0x11f02)] ++ Text.prependedMarkRanges
  | "sm" | "spacingmark" =>
      some <| ofParts [.mc] [(0xe33, 0xe33), (0xeb3, 0xeb3)] <|
        [(0x102b, 0x102c), (0x1038, 0x1038), (0x1062, 0x1064), (0x1067, 0x106d),
          (0x1083, 0x1083), (0x1087, 0x108c), (0x108f, 0x108f), (0x109a, 0x109c),
          (0x1a61, 0x1a61), (0x1a63, 0x1a64), (0xaa7b, 0xaa7b), (0xaa7d, 0xaa7d),
          (0x11720, 0x11721)] ++ Text.otherGraphemeExtendRanges
  | "l" => some (ofRanges [(0x1100, 0x115f), (0xa960, 0xa97c)])
  | "v" =>
      some <| ofRanges
        [(0x1160, 0x11a7), (0xd7b0, 0xd7c6), (0x16d63, 0x16d63), (0x16d67, 0x16d6a)]
  | "t" => some (ofRanges [(0x11a8, 0x11ff), (0xd7cb, 0xd7fb)])
  | "lv" => some (ofRanges openSyllables)
  | "lvt" => some ((ofRanges [(0xac00, 0xd7a3)]).diff (ofRanges openSyllables))
  | _ => .none

/-- The scripts whose letters are not told apart by word boundaries, or only with a dictionary. -/
def scriptsWithoutWords : List String :=
  ["hira", "kana", "hebr", "thai", "laoo", "mymr", "khmr", "tale", "talu", "lana", "tavt", "ahom"]

/-- The characters of Katakana words. -/
def katakana : CharSet :=
  (ofScript "kana").union <| ofRanges
    [(0x3031, 0x3035), (0x309b, 0x309c), (0x30a0, 0x30a0), (0x30fc, 0x30fc), (0xff70, 0xff70)]

/-- The letters of words that are told apart by spaces. -/
def wordLetters : CharSet :=
  let alphabetic := ofParts (letters ++ [.nl])
    (Text.otherAlphabeticRanges ++ Text.otherLowercaseRanges ++ Text.otherUppercaseRanges)
    Text.ideographicRanges
  let others := katakana.union (unionAll (scriptsWithoutWords.map ofScript))
  ((alphabetic.diff others).diff (extending [.mc])).union <| ofMixedRanges
    [(0x2c2, 0x2c5), (0x2d2, 0x2d7), (0x2de, 0x2df), (0x2e5, 0x2eb), (0x2ed, 0x2ed),
      (0x2ef, 0x2ff), (0x55a, 0x55c), (0x55e, 0x55e), (0x58a, 0x58a), (0x5f3, 0x5f3),
      (0x70f, 0x70f), (0xa708, 0xa716), (0xa720, 0xa721), (0xa789, 0xa78a), (0xab5b, 0xab5b)]

/-- The marks before numbers that are part of them. -/
def numberMarks : List (Nat × Nat) :=
  [(0x600, 0x605), (0x6dd, 0x6dd), (0x890, 0x891), (0x8e2, 0x8e2), (0x110bd, 0x110bd),
    (0x110cd, 0x110cd)]

def numeric : CharSet := ofParts [.nd] ((0x66b, 0x66b) :: numberMarks) []

/-- The characters of a kind that word boundaries tell apart. -/
def wordBreak? (name : String) : Option CharSet :=
  match name with
  | "cr" => some (ofRanges [(0xd, 0xd)])
  | "lf" => some (ofRanges [(0xa, 0xa)])
  | "nl" | "newline" => some (ofRanges [(0xb, 0xc), (0x85, 0x85), (0x2028, 0x2029)])
  | "extend" => some (extending [.mc])
  | "zwj" => some (ofRanges [(0x200d, 0x200d)])
  | "ri" | "regionalindicator" => some (ofRanges regionalIndicators)
  | "fo" | "format" =>
      some (ofParts [.cf] [] ((0x200b, 0x200d) :: tags :: Text.prependedMarkRanges))
  | "ka" | "katakana" => some katakana
  | "hl" | "hebrewletter" => some ((ofScript "hebr").inter (ofCategories [.lo]))
  | "le" | "aletter" => some wordLetters
  | "sq" | "singlequote" => some (ofRanges [(0x27, 0x27)])
  | "dq" | "doublequote" => some (ofRanges [(0x22, 0x22)])
  | "mb" | "midnumlet" =>
      some <| ofRanges
        [(0x2e, 0x2e), (0x2018, 0x2019), (0x2024, 0x2024), (0xfe52, 0xfe52), (0xff07, 0xff07),
          (0xff0e, 0xff0e)]
  | "ml" | "midletter" =>
      some <| ofRanges
        [(0x3a, 0x3a), (0xb7, 0xb7), (0x387, 0x387), (0x55f, 0x55f), (0x5f4, 0x5f4),
          (0x2027, 0x2027), (0xfe13, 0xfe13), (0xfe55, 0xfe55), (0xff1a, 0xff1a)]
  | "mn" | "midnum" =>
      some <| ofRanges
        [(0x2c, 0x2c), (0x3b, 0x3b), (0x37e, 0x37e), (0x589, 0x589), (0x60c, 0x60d),
          (0x66c, 0x66c), (0x7f8, 0x7f8), (0x2044, 0x2044), (0xfe10, 0xfe10), (0xfe14, 0xfe14),
          (0xfe50, 0xfe50), (0xfe54, 0xfe54), (0xff0c, 0xff0c), (0xff1b, 0xff1b)]
  | "nu" | "numeric" => some numeric
  | "ex" | "extendnumlet" => some (ofParts [.pc] [(0x202f, 0x202f)] [])
  | "wsegspace" => some (ofParts [.zs] [] [(0xa0, 0xa0), (0x2007, 0x2007), (0x202f, 0x202f)])
  | _ => .none

/-- The Georgian letters that do not begin sentences by their case. -/
def georgianLowercase : List (Nat × Nat) := [(0x10d0, 0x10fa), (0x10fd, 0x10ff)]

def sentenceLowercase : CharSet :=
  ofParts [.ll] Text.otherLowercaseRanges ((0x345, 0x345) :: georgianLowercase)

def sentenceUppercase : CharSet :=
  ofParts [.lt, .lu] Text.otherUppercaseRanges [(0x1c90, 0x1cba), (0x1cbd, 0x1cbf)]

/-- What extends a character before it in sentences. -/
def sentenceExtend : CharSet :=
  ofParts [.mn, .me, .mc] ((0x200d, 0x200d) :: Text.otherGraphemeExtendRanges) []

/-- The stops that may also stand within sentences. -/
def ambiguousStops : List (Nat × Nat) :=
  [(0x2e, 0x2e), (0x2024, 0x2024), (0xfe52, 0xfe52), (0xff0e, 0xff0e)]

/-- The characters of a kind that sentence boundaries tell apart. -/
def sentenceBreak? (name : String) : Option CharSet :=
  match name with
  | "cr" => some (ofRanges [(0xd, 0xd)])
  | "lf" => some (ofRanges [(0xa, 0xa)])
  | "se" | "sep" => some (ofRanges [(0x85, 0x85), (0x2028, 0x2029)])
  | "sp" =>
      some <| ofParts [] Text.whiteSpaceRanges
        [(0xa, 0xa), (0xd, 0xd), (0x85, 0x85), (0x2028, 0x2029)]
  | "ex" | "extend" => some sentenceExtend
  | "fo" | "format" =>
      some (ofParts [.cf] [] ((0x200c, 0x200d) :: tags :: Text.prependedMarkRanges))
  | "lo" | "lower" => some sentenceLowercase
  | "up" | "upper" => some sentenceUppercase
  | "le" | "oletter" =>
      let alphabetic := ofParts (letters ++ [.nl])
        ((0x5f3, 0x5f3) :: (0x70f, 0x70f) :: (Text.otherAlphabeticRanges ++
          Text.otherLowercaseRanges ++ Text.otherUppercaseRanges)) []
      some (((alphabetic.diff sentenceLowercase).diff sentenceUppercase).diff sentenceExtend)
  | "nu" | "numeric" => some (numeric.union (ofRanges [(0x66c, 0x66c)]))
  | "at" | "aterm" => some (ofRanges ambiguousStops)
  | "st" | "sterm" => some (ofParts [] Text.sentenceTerminalRanges ambiguousStops)
  | "sc" | "scontinue" =>
      some <| ofRanges
        [(0x2c, 0x2d), (0x3a, 0x3b), (0x37e, 0x37e), (0x55d, 0x55d), (0x60c, 0x60d),
          (0x7f8, 0x7f8), (0x1802, 0x1802), (0x1808, 0x1808), (0x2013, 0x2014),
          (0x3001, 0x3001), (0xfe10, 0xfe11), (0xfe13, 0xfe14), (0xfe31, 0xfe32),
          (0xfe50, 0xfe51), (0xfe54, 0xfe55), (0xfe58, 0xfe58), (0xfe63, 0xfe63),
          (0xff0c, 0xff0d), (0xff1a, 0xff1b), (0xff64, 0xff64)]
  | "cl" | "close" =>
      some <| ofParts [.ps, .pe, .pi, .pf]
        [(0x22, 0x22), (0x27, 0x27), (0x275b, 0x2760), (0x2e00, 0x2e01), (0x2e06, 0x2e08),
          (0x2e0b, 0x2e0b), (0x1f676, 0x1f678)]
        (ambiguousStops ++ Text.sentenceTerminalRanges)
  | _ => .none

/-! ### Sets by name -/

/-- The characters of a class that goes by a name alone: those with a property, or of a general
category or a script. -/
def class? (name : String) : Option CharSet :=
  property? name <|> category? name <|> script? name

/-- The characters for which a property has a value. -/
def valueClass? (property value : String) : Option CharSet :=
  match property with
  | "gc" | "generalcategory" => category? value
  | "sc" | "script" => script? value
  | "scx" | "scriptextensions" => scriptExtension? value
  | "age" => age? value
  | "gcb" | "graphemeclusterbreak" => graphemeBreak? value
  | "wb" | "wordbreak" => wordBreak? value
  | "sb" | "sentencebreak" => sentenceBreak? value
  | _ => .none

end CharSet

end TypedCollections
