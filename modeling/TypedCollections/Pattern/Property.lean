import TypedCollections.Pattern.CharSet
import TypedCollections.Text.Age
import TypedCollections.Text.Category
import TypedCollections.Text.Property
import TypedCollections.Text.Script
/-!
# Sets of characters by their properties

The characters of a general category, of a script or of an age, and those with other properties, by
the names that these go by. Names are in lower case, without spaces, hyphens and underscores.
-/

namespace TypedCollections

namespace CharSet

/-- The cuts of the runs whose values are among some. A run ends where the next one begins. -/
def runCuts {α : Type} (isAmong : α → Bool) : (inside : Bool) → List (Nat × α) → List Nat
  | _, [] => []
  | inside, (first, value) :: rest =>
      if isAmong value = inside then runCuts isAmong inside rest
      else first :: runCuts isAmong (!inside) rest

def ofRuns {α : Type} (isAmong : α → Bool) (runs : List (Nat × α)) : CharSet :=
  ⟨runCuts isAmong false runs⟩

/-- The set of ranges that may touch one another or overlap, in any order. -/
def ofMixedRanges (ranges : List (Nat × Nat)) : CharSet :=
  unionAll (ranges.map fun (first, last) => ⟨[first, last + 1]⟩)

def assigned : CharSet := ofRanges Text.assignedRanges

/-- The lower-case letters that take turns with upper-case ones. -/
def pairedLowercase : CharSet :=
  ofRanges <| Text.casePairRanges.flatMap fun (first, last) =>
    (List.range ((last + 1 - first) / 2)).map fun i =>
      let code := first + 2 * i + 1
      (code, code)

/-- The code points of some general categories. -/
def ofCategories (categories : List Text.Category) : CharSet :=
  let runs := (ofRuns categories.contains Text.categoryRuns).diff pairedLowercase
  let lowercase := if categories.contains .ll then pairedLowercase else none
  let unassigned := if categories.contains .cn then negate assigned else none
  ((runs.inter assigned).union lowercase).union unassigned

/-- The code points of some general categories and in further ranges, but not in others. -/
def ofParts (categories : List Text.Category) (also except : List (Nat × Nat)) : CharSet :=
  ((ofCategories categories).union (ofMixedRanges also)).diff (ofMixedRanges except)

/-- The characters of a script, given by its code. -/
def ofScript (code : String) : CharSet :=
  ((ofRuns (· == code) Text.scriptRuns).inter assigned).diff (ofCategories [.cs, .co])

/-- The characters that are used in a script, given by its code. -/
def ofScriptExtension (code : String) : CharSet :=
  let ranges (isListed : List String → Bool) : CharSet :=
    ofMixedRanges <| (Text.scriptExtensions.filter fun row => isListed row.2.2).map fun
      (first, last, _) => (first, last)
  ((ofScript code).diff (ranges fun _ => true)).union (ranges (·.contains code))

/-- The code points of a version and those before it. -/
def ofVersion (version : Nat) : CharSet :=
  (ofRuns (· ≤ version) Text.ageRuns).inter (assigned.union (ofRanges Text.noncharacterRanges))

/-! ### Names of general categories, scripts and ages -/

/-- What a table has under a name. -/
def lookUp? {α : Type} (table : List (List String × α)) (name : String) : Option α :=
  (table.find? fun row => row.1.contains name).map (·.2)

def letters : List Text.Category := [.lu, .ll, .lt, .lm, .lo]

/-- The names of general categories and their groups. Surrogates are no characters and have none. -/
def categoryNames : List (List String × List Text.Category) := [
    (["lu", "uppercaseletter"], [.lu]), (["ll", "lowercaseletter"], [.ll]),
    (["lt", "titlecaseletter"], [.lt]), (["lc", "casedletter"], [.lu, .ll, .lt]),
    (["lm", "modifierletter"], [.lm]), (["lo", "otherletter"], [.lo]), (["l", "letter"], letters),
    (["mn", "nonspacingmark"], [.mn]), (["mc", "spacingmark"], [.mc]),
    (["me", "enclosingmark"], [.me]), (["m", "mark", "combiningmark"], [.mn, .mc, .me]),
    (["nd", "decimalnumber", "digit"], [.nd]), (["nl", "letternumber"], [.nl]),
    (["no", "othernumber"], [.no]), (["n", "number"], [.nd, .nl, .no]),
    (["pc", "connectorpunctuation"], [.pc]), (["pd", "dashpunctuation"], [.pd]),
    (["ps", "openpunctuation"], [.ps]), (["pe", "closepunctuation"], [.pe]),
    (["pi", "initialpunctuation"], [.pi]), (["pf", "finalpunctuation"], [.pf]),
    (["po", "otherpunctuation"], [.po]),
    (["p", "punctuation", "punct"], [.pc, .pd, .ps, .pe, .pi, .pf, .po]),
    (["sm", "mathsymbol"], [.sm]), (["sc", "currencysymbol"], [.sc]),
    (["sk", "modifiersymbol"], [.sk]), (["so", "othersymbol"], [.so]),
    (["s", "symbol"], [.sm, .sc, .sk, .so]), (["zs", "spaceseparator"], [.zs]),
    (["zl", "lineseparator"], [.zl]), (["zp", "paragraphseparator"], [.zp]),
    (["z", "separator"], [.zs, .zl, .zp]), (["cc", "control", "cntrl"], [.cc]),
    (["cf", "format"], [.cf]), (["co", "privateuse"], [.co]), (["cn", "unassigned"], [.cn]),
    (["c", "other"], [.cc, .cf, .cs, .co, .cn])]

/-- The characters of a general category or a group of them. -/
def category? (name : String) : Option CharSet :=
  match name with
  | "any" => some (negate none)
  | "assigned" => some assigned
  | "ascii" => some (ofRanges [(0, 0x7f)])
  | name => (lookUp? categoryNames name).map ofCategories

/-- The code of a script. -/
def scriptCode? (name : String) : Option String :=
  (Text.scriptNames.find? (·.contains name)).bind List.head?

def script? (name : String) : Option CharSet := (scriptCode? name).map ofScript

def scriptExtension? (name : String) : Option CharSet := (scriptCode? name).map ofScriptExtension

/-- The characters of an age, which is given by a version. -/
def age? (name : String) : Option CharSet :=
  let isNamed (version : Nat) : Bool :=
    name = toString (version / 10) ++ "." ++ toString (version % 10)
      || name = "v" ++ toString version
  (Text.versions.find? isNamed).map ofVersion

/-! ### Other properties -/

/-- A property of characters: its names, the general categories whose characters have it, and the
ranges in which others have it or these have it not. -/
structure Property where
  names : List String
  categories : List Text.Category := []
  also : List (Nat × Nat) := []
  except : List (Nat × Nat) := []

def Property.chars (property : Property) : CharSet :=
  ofParts property.categories property.also property.except

/-- What begins identifiers beside letters. -/
def otherStarts : List (Nat × Nat) :=
  [(0x1885, 0x1886), (0x2118, 0x2118), (0x212e, 0x212e), (0x309b, 0x309c)]

/-- What continues identifiers beside letters, marks, digits and connectors. -/
def otherContinuations : List (Nat × Nat) :=
  [(0xb7, 0xb7), (0x387, 0x387), (0x1369, 0x1371), (0x19da, 0x19da), (0x200c, 0x200d),
    (0x30fb, 0x30fb), (0xff65, 0xff65)]

/-- The punctuation that stands within words. -/
def withinWords : List (Nat × Nat) :=
  [(0x27, 0x27), (0x2e, 0x2e), (0x3a, 0x3a), (0xb7, 0xb7), (0x387, 0x387), (0x55f, 0x55f),
    (0x5f4, 0x5f4), (0x2018, 0x2019), (0x2024, 0x2024), (0x2027, 0x2027), (0xfe13, 0xfe13),
    (0xfe52, 0xfe52), (0xfe55, 0xfe55), (0xff07, 0xff07), (0xff0e, 0xff0e), (0xff1a, 0xff1a)]

def variationSelectors : List (Nat × Nat) :=
  [(0x180b, 0x180d), (0x180f, 0x180f), (0xfe00, 0xfe0f), (0xe0100, 0xe01ef)]

def emojiModifiers : List (Nat × Nat) := [(0x1f3fb, 0x1f3ff)]

def regionalIndicators : List (Nat × Nat) := [(0x1f1e6, 0x1f1ff)]

/-- The properties that concern case. -/
def caseProperties : List Property := [
    { names := ["lower", "lowercase"], categories := [.ll], also := Text.otherLowercaseRanges },
    { names := ["olower", "otherlowercase"], also := Text.otherLowercaseRanges },
    { names := ["upper", "uppercase"], categories := [.lu], also := Text.otherUppercaseRanges },
    { names := ["oupper", "otheruppercase"], also := Text.otherUppercaseRanges },
    { names := ["cased"], categories := [.lu, .ll, .lt],
      also := Text.otherLowercaseRanges ++ Text.otherUppercaseRanges },
    { names := ["ci", "caseignorable"], categories := [.mn, .me, .cf, .lm, .sk],
      also := withinWords },
    { names := ["cwl", "changeswhenlowercased"], categories := [.lu, .lt],
      also := [(0x2160, 0x216f), (0x24b6, 0x24cf)], except := Text.caselessRanges },
    { names := ["cwu", "changeswhenuppercased"], categories := [.ll, .lt],
      also := [(0x345, 0x345), (0x2170, 0x217f), (0x24d0, 0x24e9)],
      except := Text.caselessRanges },
    { names := ["cwt", "changeswhentitlecased"], categories := [.ll],
      also := [(0x1c4, 0x1c4), (0x1c7, 0x1c7), (0x1ca, 0x1ca), (0x1f1, 0x1f1), (0x345, 0x345),
        (0x2170, 0x217f), (0x24d0, 0x24e9)],
      except := (0x10d0, 0x10fa) :: (0x10fd, 0x10ff) :: Text.caselessRanges },
    { names := ["cwcf", "changeswhencasefolded"], categories := [.lu, .lt],
      also := [(0xb5, 0xb5), (0xdf, 0xdf), (0x149, 0x149), (0x17f, 0x17f), (0x345, 0x345),
        (0x3c2, 0x3c2), (0x3d0, 0x3d1), (0x3d5, 0x3d6), (0x3f0, 0x3f1), (0x3f5, 0x3f5),
        (0x587, 0x587), (0x13f8, 0x13fd), (0x1c80, 0x1c88), (0x1e9a, 0x1e9b), (0x1f80, 0x1f87),
        (0x1f90, 0x1f97), (0x1fa0, 0x1fa7), (0x1fb2, 0x1fb4), (0x1fb7, 0x1fb7),
        (0x1fc2, 0x1fc4), (0x1fc7, 0x1fc7), (0x1ff2, 0x1ff4), (0x1ff7, 0x1ff7),
        (0x2160, 0x216f), (0x24b6, 0x24cf), (0xab70, 0xabbf), (0xfb00, 0xfb06),
        (0xfb13, 0xfb17)],
      except := (0x13a0, 0x13f5) :: Text.caselessRanges },
    { names := ["cwcm", "changeswhencasemapped"], categories := [.lu, .ll, .lt],
      also := [(0x345, 0x345), (0x2160, 0x217f), (0x24b6, 0x24e9)],
      except := Text.caselessRanges },
    { names := ["sd", "softdotted"], also := Text.softDottedRanges }]

/-- The properties of the parts of identifiers and patterns. -/
def identifierProperties : List Property :=
  let continuations := letters ++ [.nl, .mn, .mc, .nd, .pc]
  [
    { names := ["ids", "idstart"], categories := letters ++ [.nl], also := otherStarts,
      except := Text.patternSyntaxRanges },
    { names := ["oids", "otheridstart"], also := otherStarts },
    { names := ["idc", "idcontinue"], categories := continuations,
      also := otherStarts ++ otherContinuations, except := Text.patternSyntaxRanges },
    { names := ["oidc", "otheridcontinue"], also := otherContinuations },
    { names := ["xids", "xidstart"], categories := letters ++ [.nl], also := otherStarts,
      except := (0xe33, 0xe33) :: (0xeb3, 0xeb3) :: (0xff9e, 0xff9f) ::
        (Text.compatibilityRanges ++ Text.patternSyntaxRanges) },
    { names := ["xidc", "xidcontinue"], categories := continuations,
      also := otherStarts ++ otherContinuations,
      except := Text.compatibilityRanges ++ Text.patternSyntaxRanges },
    { names := ["idcompatmathstart"], also := Text.mathStartRanges },
    { names := ["idcompatmathcontinue"],
      also := Text.mathStartRanges ++ Text.mathContinueRanges },
    { names := ["patsyn", "patternsyntax"], also := Text.patternSyntaxRanges },
    { names := ["patws", "patternwhitespace"],
      also := [(0x9, 0xd), (0x20, 0x20), (0x85, 0x85), (0x200e, 0x200f), (0x2028, 0x2029)] }]

/-- The properties of letters and of the marks that go with them. -/
def letterProperties : List Property := [
    { names := ["alpha", "alphabetic"], categories := letters ++ [.nl],
      also := Text.otherAlphabeticRanges ++ Text.otherLowercaseRanges ++
        Text.otherUppercaseRanges },
    { names := ["oalpha", "otheralphabetic"], also := Text.otherAlphabeticRanges },
    { names := ["dia", "diacritic"], also := Text.diacriticRanges },
    { names := ["ext", "extender"], also := Text.extenderRanges },
    { names := ["grbase", "graphemebase"],
      categories := letters ++ [.mc, .nd, .nl, .no, .pc, .pd, .ps, .pe, .pi, .pf, .po, .sm, .sc,
        .sk, .so, .zs],
      except := Text.otherGraphemeExtendRanges },
    { names := ["grext", "graphemeextend"], categories := [.mn, .me],
      also := Text.otherGraphemeExtendRanges },
    { names := ["ogrext", "othergraphemeextend"], also := Text.otherGraphemeExtendRanges },
    { names := ["grlink", "graphemelink"], also := Text.viramaRanges },
    { names := ["loe", "logicalorderexception"], also := Text.logicalOrderExceptionRanges },
    { names := ["mcm", "modifiercombiningmark"], also := Text.modifierCombiningMarkRanges },
    { names := ["pcm", "prependedconcatenationmark"], also := Text.prependedMarkRanges },
    { names := ["ideo", "ideographic"], also := Text.ideographicRanges },
    { names := ["uideo", "unifiedideograph"], also := Text.unifiedIdeographRanges },
    { names := ["radical"], also := [(0x2e80, 0x2e99), (0x2e9b, 0x2ef3), (0x2f00, 0x2fd5)] },
    { names := ["idsb", "idsbinaryoperator"],
      also := [(0x2ff0, 0x2ff1), (0x2ff4, 0x2ffd), (0x31ef, 0x31ef)] },
    { names := ["idst", "idstrinaryoperator"], also := [(0x2ff2, 0x2ff3)] },
    { names := ["idsu", "idsunaryoperator"], also := [(0x2ffe, 0x2fff)] },
    { names := ["hex", "hexdigit"], also := Text.hexDigitRanges },
    { names := ["ahex", "asciihexdigit"], also := [(0x30, 0x39), (0x41, 0x46), (0x61, 0x66)] }]

/-- The properties of emoji. -/
def emojiProperties : List Property := [
    { names := ["emoji"], also := Text.emojiRanges },
    { names := ["ecomp", "emojicomponent"], also := Text.emojiComponentRanges },
    { names := ["emod", "emojimodifier"], also := emojiModifiers },
    { names := ["ebase", "emojimodifierbase"], also := Text.emojiModifierBaseRanges },
    { names := ["epres", "emojipresentation"], also := Text.emojiPresentationRanges },
    { names := ["extpict", "extendedpictographic"], also := Text.pictographicRanges },
    { names := ["ri", "regionalindicator"], also := regionalIndicators }]

/-- The properties of punctuation, symbols, spaces and controls. -/
def signProperties : List Property := [
    { names := ["bidic", "bidicontrol"], also := Text.bidiControlRanges },
    { names := ["dash"], also := Text.dashRanges },
    { names := ["hyphen"], also := Text.hyphenRanges },
    { names := ["qmark", "quotationmark"], also := Text.quotationMarkRanges },
    { names := ["sterm", "sentenceterminal"], also := Text.sentenceTerminalRanges },
    { names := ["term", "terminalpunctuation"], also := Text.terminalPunctuationRanges },
    { names := ["math"], categories := [.sm], also := Text.otherMathRanges },
    { names := ["omath", "othermath"], also := Text.otherMathRanges },
    { names := ["wspace", "whitespace", "space"], also := Text.whiteSpaceRanges },
    { names := ["joinc", "joincontrol"], also := [(0x200c, 0x200d)] },
    { names := ["vs", "variationselector"], also := variationSelectors },
    { names := ["di", "defaultignorablecodepoint"], categories := [.cf],
      also := Text.otherDefaultIgnorableRanges ++ variationSelectors,
      except := (0xfff9, 0xfffb) :: (0x13430, 0x1343f) :: Text.prependedMarkRanges },
    { names := ["odi", "otherdefaultignorablecodepoint"],
      also := Text.otherDefaultIgnorableRanges },
    { names := ["dep", "deprecated"], also := Text.deprecatedRanges },
    { names := ["nchar", "noncharactercodepoint"], also := Text.noncharacterRanges }]

def properties : List Property :=
  caseProperties ++ identifierProperties ++ letterProperties ++ emojiProperties ++ signProperties

/-- The characters with a property. -/
def property? (name : String) : Option CharSet :=
  (properties.find? (·.names.contains name)).map Property.chars

def isAlphabetic (c : Char) : Bool := (property? "alphabetic").any (·.has c)

def isNumber (c : Char) : Bool := (category? "number").any (·.has c)

end CharSet

end TypedCollections
