import TypedCollections.Number.Shortest
/-!
# Reading decimals

A decimal literal has a sign, digits and an exponent of ten. `nearest` rounds it once, to the
nearest number of the format. `scaled` is the faster rule used for JSON text: the digits are rounded
to a number first, and that number is multiplied or divided by powers of ten which are themselves
numbers of the format, so the last bit may differ from `nearest`.
-/

namespace TypedCollections

namespace Number

/-- How far powers of ten are worth computing: a number of the format is zero or lies between
`10 ^ (-powerLimit)` and `10 ^ powerLimit`. -/
def powerLimit : Nat := 400

/-- The number nearest to `digits * 10 ^ exponent`. The power is not computed if the decimal is far
too small or far too large: `digits` lies between `2 ^ n` and `2 ^ (n + 1)`, and two to a power
lies between ten to three tenths and ten to a third of it. -/
def nearest (negative : Bool) (digits : Nat) (exponent : Int) : Number :=
  let n := Nat.log2 digits
  if digits = 0 ∨ (n / 3 + 1 : Nat) + exponent < -powerLimit then ofFraction negative 0 1
  else if powerLimit < (3 * n / 10 : Nat) + exponent then .infinite negative
  else ofFraction negative (digits * Nat.pow 10 exponent.toNat) (Nat.pow 10 (-exponent).toNat)

/-- The largest power of ten of the format. -/
def largestPower : Nat := 308

/-- A power of ten as a magnitude in units. -/
def powerUnits (exponent : Nat) : Nat := roundUnits (Nat.pow 10 exponent * one) 1

/-- The rounded product of a magnitude with a power of ten. -/
def timesPower (units exponent : Nat) : Nat := roundUnits (units * powerUnits exponent) one

/-- The rounded quotient of a magnitude by a power of ten. -/
def overPower (units exponent : Nat) : Nat := roundUnits (units * one) (powerUnits exponent)

/-- Divides a magnitude by `10 ^ exponent`, at most `10 ^ 308` in one step. -/
def overPowers (units : Nat) (exponent : Nat) : Nat :=
  if exponent ≤ largestPower then overPower units exponent
  else if units = 0 then 0
  else overPowers (overPower units largestPower) (exponent - largestPower)
termination_by exponent
decreasing_by
  have : 0 < largestPower := by decide
  omega

/-- The magnitude read from `digits * 10 ^ exponent` by scaling, if it stays below the limit. -/
def scaledUnits? (digits : Nat) (exponent : Int) : Option Nat :=
  let units := roundUnits (digits * one) 1
  if exponent < 0 then some (overPowers units exponent.natAbs)
  else if exponent.natAbs ≤ largestPower then
    let product := timesPower units exponent.natAbs
    if product < limit then some product else none
  else if units = 0 then some 0
  else none

/-- The number read from a decimal by scaling, if it is not too large. -/
def scaled? (negative : Bool) (digits : Nat) (exponent : Int) : Option Finite :=
  match scaledUnits? digits exponent with
  | none => none
  | some units =>
      match ofUnits negative units 1 with
      | .finite value => some value
      | _ => none

/-- What a text of digits, with an optional point and exponent, denotes. -/
structure Literal where
  negative : Bool
  digits : Nat
  exponent : Int

private def digitValue (c : Char) : Nat := c.toNat - '0'.toNat

/-- The number written by a list of decimal digits. -/
def ofDigits (digits : List Char) : Nat :=
  digits.foldl (fun acc c => 10 * acc + digitValue c) 0

/-- Reads an integer without spaces: an optional sign and at least one digit. -/
def readInt? (text : String) : Option Int :=
  let read (negative : Bool) (digits : List Char) : Option Int :=
    if digits.isEmpty || !digits.all Char.isDigit then none
    else some (if negative then -(ofDigits digits : Int) else (ofDigits digits : Int))
  match text.toList with
  | '-' :: digits => read true digits
  | '+' :: digits => read false digits
  | digits => read false digits

/-- Reads a decimal: an optional sign, digits with an optional point, and an optional exponent. -/
def readLiteral? (text : String) : Option Literal :=
  let read (negative : Bool) (chars : List Char) : Option Literal :=
    let whole := chars.takeWhile Char.isDigit
    let afterWhole := chars.dropWhile Char.isDigit
    let (fraction, rest) :=
      match afterWhole with
      | '.' :: more => (more.takeWhile Char.isDigit, more.dropWhile Char.isDigit)
      | other => ([], other)
    if whole.isEmpty && fraction.isEmpty then none
    else
      let literal (exponent : Int) : Literal :=
        ⟨negative, ofDigits (whole ++ fraction), exponent - fraction.length⟩
      match rest with
      | [] => some (literal 0)
      | e :: exponent =>
          if e = 'e' || e = 'E' then (readInt? (String.ofList exponent)).map literal else none
  match text.toList with
  | '-' :: chars => read true chars
  | '+' :: chars => read false chars
  | chars => read false chars

/-- Reads a number: a decimal rounded to nearest, or one of the words for what is not finite. -/
def read? (text : String) : Option Number :=
  match text.toLower with
  | "nan" | "+nan" | "-nan" => some .notANumber
  | "inf" | "+inf" | "infinity" | "+infinity" => some (.infinite false)
  | "-inf" | "-infinity" => some (.infinite true)
  | _ => (readLiteral? text).map fun literal =>
      nearest literal.negative literal.digits literal.exponent

end Number

end TypedCollections
