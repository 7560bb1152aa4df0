import TypedCollections.Number.Binary64
/-!
# Shortest decimals

A magnitude is written with the fewest decimal digits that still round to it. The numbers that round
to a magnitude form an interval, which holds its ends when the significand is even. A grid of
decimals with a given number of digits meets the interval if and only if one of the magnitude's two
neighbours on the grid lies in it, so the first grid of `1, 2, … 17` digits with such a neighbour
gives the answer: of two neighbours the nearer, and an exact tie is broken as asked.
-/

namespace TypedCollections

namespace Number

/-- Which of two equally near decimals is taken. -/
inductive Tie where
  | even
  | up
deriving DecidableEq

/-- The decimal `digits * 10 ^ exponent`. -/
structure Decimal where
  digits : Nat
  exponent : Int
deriving DecidableEq

def digitChars (n : Nat) : List Char := Nat.toDigits 10 n

/-- The exponent of the leading decimal digit of a positive magnitude. -/
def leadingExponent (units : Nat) : Int :=
  ((digitChars (units * Nat.pow 10 324 / one)).length : Int) - 325

/-- The interval of a magnitude, in quarters of a unit: its ends and whether it holds them. -/
structure Interval where
  low : Nat
  high : Nat
  closed : Bool

/-- The numbers that round to a magnitude. Below a power of two the grid is twice as fine. -/
def intervalOf (units : Nat) : Interval :=
  let shift := shiftOf units
  let significand := units >>> shift
  let gap := 1 <<< shift
  let lower := if significand = 1 <<< 52 ∧ 0 < shift then gap else 2 * gap
  ⟨4 * units - lower, 4 * units + 2 * gap, significand % 2 = 0⟩

/-- Whether `numerator / denominator`, in quarters of a unit, lies in the interval. -/
def Interval.contains (interval : Interval) (numerator denominator : Nat) : Bool :=
  if interval.closed then
    interval.low * denominator ≤ numerator && numerator ≤ interval.high * denominator
  else
    interval.low * denominator < numerator && numerator < interval.high * denominator

/-- The better of a magnitude's two neighbours on the grid `10 ^ exponent`, if one rounds to it. -/
def neighbour? (tie : Tie) (units : Nat) (exponent : Int) : Option Decimal :=
  let step := 4 * one * Nat.pow 10 exponent.toNat
  let scale := Nat.pow 10 (-exponent).toNat
  let interval := intervalOf units
  let value := 4 * units * scale
  let below := value / step
  let above := below + 1
  let holdsBelow := interval.contains (below * step) scale
  let holdsAbove := interval.contains (above * step) scale
  let down := value - below * step
  let up := above * step - value
  let takeAbove : Bool :=
    if down = up then
      match tie with
      | .even => below % 2 = 1
      | .up => true
    else up < down
  match holdsBelow, holdsAbove with
  | false, false => none
  | true, false => some ⟨below, exponent⟩
  | false, true => some ⟨above, exponent⟩
  | true, true => some ⟨if takeAbove then above else below, exponent⟩

/-- Moves trailing zeros of the digits into the exponent. -/
def Decimal.strip (decimal : Decimal) : Nat → Decimal
  | 0 => decimal
  | fuel + 1 =>
      if decimal.digits % 10 = 0 ∧ decimal.digits ≠ 0 then
        Decimal.strip ⟨decimal.digits / 10, decimal.exponent + 1⟩ fuel
      else decimal

/-- The shortest decimal that rounds to a positive magnitude. -/
def shortest (tie : Tie) (units : Nat) : Decimal :=
  let leading := leadingExponent units
  let found := (List.range 17).findSome? fun (more : Nat) => neighbour? tie units (leading - more)
  (found.getD ⟨units, 0⟩).strip 17

end Number

end TypedCollections
