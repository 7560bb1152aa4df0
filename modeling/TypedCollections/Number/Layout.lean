import TypedCollections.Number.Shortest
/-!
# Layouts of number text

How the shortest decimal of a number is laid out: which decimal exponents are written positionally
and which with an exponent, whether a whole number keeps a `.0`, and how ties between two shortest
decimals go. The two layouts of this library are `Layout.json`, for numbers inside JSON text, and
`Layout.plain`, for bounds inside messages.
-/

namespace TypedCollections

namespace Number

/-- The choices that turn a decimal into text. -/
structure Layout where
  /-- The exponents of the leading digit that are written positionally; all of them if absent. -/
  positional : Option (Int × Int)
  /-- A whole number written positionally ends in `.0`. -/
  wholePoint : Bool
  tie : Tie

/-- Inside JSON text: positional for exponents from `-5` to `15`, a whole number keeps `.0`, and
ties go to the even digit. -/
def Layout.json : Layout := ⟨some (-5, 15), true, .even⟩

/-- Inside messages: always positional, whole numbers bare, and ties go up. -/
def Layout.plain : Layout := ⟨none, false, .up⟩

/-- Digits with the point after the digit of exponent zero. -/
def positionalText (layout : Layout) (digits : List Char) (exponent : Int) : List Char :=
  let leading := exponent + digits.length - 1
  if 0 ≤ exponent then
    digits ++ List.replicate exponent.toNat '0' ++ (if layout.wholePoint then ['.', '0'] else [])
  else if 0 ≤ leading then
    digits.take (leading + 1).toNat ++ '.' :: digits.drop (leading + 1).toNat
  else
    '0' :: '.' :: List.replicate (-leading - 1).toNat '0' ++ digits

/-- Digits with the point after the first one, and the exponent with its sign. -/
def exponentText (digits : List Char) (exponent : Int) : List Char :=
  let leading := exponent + digits.length - 1
  let mantissa :=
    match digits with
    | first :: second :: rest => first :: '.' :: second :: rest
    | short => short
  let sign := if leading < 0 then '-' else '+'
  mantissa ++ 'e' :: sign :: digitChars leading.natAbs

def magnitudeText (layout : Layout) (units : Nat) : List Char :=
  if units = 0 then positionalText layout ['0'] 0
  else
    let decimal := shortest layout.tie units
    let digits := digitChars decimal.digits
    let leading := decimal.exponent + digits.length - 1
    let fits :=
      match layout.positional with
      | none => true
      | some (lowest, highest) => lowest ≤ leading && leading ≤ highest
    if fits then positionalText layout digits decimal.exponent
    else exponentText digits decimal.exponent

def Finite.chars (layout : Layout) (value : Finite) : List Char :=
  if value.negative then '-' :: magnitudeText layout value.units
  else magnitudeText layout value.units

/-- The text of a number inside a message. -/
def text : Number → String
  | .finite value => String.ofList (value.chars .plain)
  | .infinite negative => if negative then "-inf" else "inf"
  | .notANumber => "NaN"

end Number

end TypedCollections
