/-!
# Binary floating-point numbers

The numbers of the 64-bit binary format, without their bit layout. A finite number is a sign and a
magnitude counted in units of `2 ^ -1074`, the smallest positive number of the format. Every
magnitude is then a natural number, order and equality are those of the integers, and rounding is
one division. Main statements: rounding gives a representable magnitude, and leaves one that is
already representable as it is.
-/

namespace TypedCollections

namespace Number

/-- How many units make one. -/
def one : Nat := 1 <<< 1074

/-- The first magnitude, in units, that is too large for the format. -/
def limit : Nat := 1 <<< 2098

/-- The magnitudes of the format: at most 53 significant bits, and below the limit. -/
def Representable (units : Nat) : Prop :=
  units < limit ∧ ∃ significand shift, significand < 1 <<< 53 ∧ units = significand <<< shift

/-- A finite number of the format. Zero has a sign as well. -/
structure Finite where
  negative : Bool
  units : Nat
  representable : Representable units
deriving DecidableEq

/-- The quotient rounded to the nearest integer, a half to the even neighbour. -/
def roundHalfEven (numerator denominator : Nat) : Nat :=
  let floor := numerator / denominator
  let twice := 2 * (numerator % denominator)
  if twice < denominator then floor
  else if denominator < twice then floor + 1
  else floor + floor % 2

/-- How far the significand of a magnitude with this integral part is shifted. -/
def shiftOf (units : Nat) : Nat := units.log2 - 52

/-- The magnitude nearest to a quotient of units, as a significand and a shift. -/
def roundUnits (numerator denominator : Nat) : Nat :=
  let shift := shiftOf (numerator / denominator)
  roundHalfEven numerator (denominator <<< shift) <<< shift

theorem roundHalfEven_le (numerator denominator : Nat) :
    roundHalfEven numerator denominator ≤ numerator / denominator + 1 := by
  unfold roundHalfEven
  have : (numerator / denominator) % 2 < 2 := Nat.mod_lt _ (by decide)
  simp only
  split
  · omega
  · split <;> omega

theorem roundHalfEven_mul (quotient denominator : Nat) (h : 0 < denominator) :
    roundHalfEven (quotient * denominator) denominator = quotient := by
  unfold roundHalfEven
  simp only [Nat.mul_mod_left, Nat.mul_zero, Nat.mul_div_cancel _ h, if_pos h]

/-- A rounded significand has at most 53 bits, or is the least of 54 bits. -/
theorem significand_le (numerator denominator : Nat) :
    roundHalfEven numerator (denominator <<< shiftOf (numerator / denominator)) ≤ 1 <<< 53 := by
  refine Nat.le_trans (roundHalfEven_le _ _) ?_
  rw [Nat.shiftLeft_eq, ← Nat.div_div_eq_div_mul]
  have hlt : numerator / denominator < 2 ^ ((numerator / denominator).log2 + 1) :=
    Nat.lt_log2_self
  have : numerator / denominator / 2 ^ shiftOf (numerator / denominator) < 2 ^ 53 := by
    rw [Nat.div_lt_iff_lt_mul (Nat.two_pow_pos _), ← Nat.pow_add]
    refine Nat.lt_of_lt_of_le hlt (Nat.pow_le_pow_right (by decide) ?_)
    unfold shiftOf
    omega
  omega

/-- A rounded magnitude has at most 53 significant bits. -/
theorem exists_roundUnits_eq (numerator denominator : Nat) :
    ∃ significand shift, significand < 1 <<< 53 ∧
      roundUnits numerator denominator = significand <<< shift := by
  have hle := significand_le numerator denominator
  rcases Nat.lt_or_eq_of_le hle with hlt | heq
  · exact ⟨_, _, hlt, rfl⟩
  · refine ⟨1 <<< 52, shiftOf (numerator / denominator) + 1, by decide, ?_⟩
    unfold roundUnits
    simp only [heq]
    generalize shiftOf (numerator / denominator) = shift
    rw [← Nat.shiftLeft_add, ← Nat.shiftLeft_add]
    congr 1
    omega

/-- A representable magnitude is its own rounding. -/
theorem roundUnits_eq_self {units : Nat} (h : Representable units) :
    roundUnits units 1 = units := by
  obtain ⟨_, significand, shift, hlt, rfl⟩ := h
  unfold roundUnits
  simp only [Nat.div_one, Nat.shiftLeft_eq, Nat.one_mul]
  suffices hdvd : 2 ^ shiftOf (significand * 2 ^ shift) ∣ significand * 2 ^ shift by
    obtain ⟨quotient, hquotient⟩ := hdvd
    generalize hs : shiftOf (significand * 2 ^ shift) = s at hquotient ⊢
    rw [hquotient, Nat.mul_comm (2 ^ s) quotient, roundHalfEven_mul _ _ (Nat.two_pow_pos _)]
  refine Nat.dvd_trans (Nat.pow_dvd_pow 2 ?_) (Nat.dvd_mul_left _ _)
  unfold shiftOf
  rcases Nat.eq_zero_or_pos significand with hzero | hpos
  · subst hzero
    simp
  · have hbound : significand * 2 ^ shift < 2 ^ (53 + shift) := by
      rw [Nat.pow_add]
      exact Nat.mul_lt_mul_of_pos_right hlt (Nat.two_pow_pos _)
    have hne : significand * 2 ^ shift ≠ 0 :=
      Nat.ne_of_gt (Nat.mul_pos hpos (Nat.two_pow_pos _))
    have := (Nat.log2_lt hne).2 hbound
    omega

end Number

/-- A number of the 64-bit binary format. -/
inductive Number where
  | finite (value : Number.Finite)
  | infinite (negative : Bool)
  | notANumber
deriving DecidableEq

namespace Number

/-- The number of the format nearest to a quotient of units, with the given sign. -/
def ofUnits (negative : Bool) (numerator denominator : Nat) : Number :=
  if h : roundUnits numerator denominator < limit then
    .finite ⟨negative, roundUnits numerator denominator, h, exists_roundUnits_eq _ _⟩
  else
    .infinite negative

/-- The number nearest to a fraction, a half way case to the even significand. -/
def ofFraction (negative : Bool) (numerator denominator : Nat) : Number :=
  ofUnits negative (numerator * one) denominator

def ofInt (value : Int) : Number := ofFraction (value < 0) value.natAbs 1

theorem limit_pos : 0 < limit := by
  unfold limit
  generalize 2098 = exponent
  rw [Nat.shiftLeft_eq, Nat.one_mul]
  exact Nat.two_pow_pos exponent

namespace Finite

/-- Zero without a minus sign. -/
def zero : Finite := ⟨false, 0, limit_pos, 0, 0, by decide, by decide⟩

/-- The signed count of units. -/
def toUnits (value : Finite) : Int := if value.negative then -(value.units : Int) else value.units

def negate (value : Finite) : Finite := { value with negative := !value.negative }

def isWhole (value : Finite) : Bool := value.units % one == 0

/-- The number without its fraction. -/
def truncate (value : Finite) : Int :=
  if value.negative then -((value.units / one : Nat) : Int) else ((value.units / one : Nat) : Int)

end Finite

/-- Numeric equality: the zeros are equal, and what is not a number differs from everything. -/
def equal : Number → Number → Bool
  | .finite a, .finite b => a.toUnits == b.toUnits
  | .infinite a, .infinite b => a == b
  | _, _ => false

/-- Numeric order: what is not a number is neither below nor above anything. -/
def below : Number → Number → Bool
  | .finite a, .finite b => a.toUnits < b.toUnits
  | .finite _, .infinite negative => !negative
  | .infinite negative, .finite _ => negative
  | .infinite a, .infinite b => a && !b
  | _, _ => false

def negate : Number → Number
  | .finite value => .finite value.negate
  | .infinite negative => .infinite (!negative)
  | .notANumber => .notANumber

end Number

end TypedCollections
