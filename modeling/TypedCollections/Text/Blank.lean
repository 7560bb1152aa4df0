/-!
# White space

The characters with the Unicode property `White_Space`. A name is blank if it holds nothing else.
-/

namespace TypedCollections

namespace Text

/-- The ranges of code points with the property `White_Space`. -/
def whiteSpaceRanges : List (Nat × Nat) :=
  [(0x09, 0x0d), (0x20, 0x20), (0x85, 0x85), (0xa0, 0xa0), (0x1680, 0x1680), (0x2000, 0x200a),
    (0x2028, 0x2029), (0x202f, 0x202f), (0x205f, 0x205f), (0x3000, 0x3000)]

/-- Whether a code point lies in one of the ranges. -/
def inRanges (ranges : List (Nat × Nat)) (code : Nat) : Bool :=
  ranges.any fun range => range.1 ≤ code && code ≤ range.2

def isWhiteSpace (c : Char) : Bool := inRanges whiteSpaceRanges c.toNat

/-- Whether a text holds white space only. -/
def isBlank (text : String) : Bool := text.toList.all isWhiteSpace

end Text

end TypedCollections
