import Mathlib.Algebra.Group.Nat.Defs
import TypedCollections.Proofs.Json.Numerals
import TypedCollections.Value
/-!
# Numbers inside JSON

A finite number that is written and read back is the same number, except that a zero loses its sign.
What is written of the number read back is what was written before.
-/

namespace TypedCollections

namespace Number

/-- The number with a zero's sign taken away. -/
def Finite.settled (value : Finite) : Finite :=
  { value with negative := value.negative && value.units != 0 }

theorem Finite.toUnits_settled (value : Finite) : value.settled.toUnits = value.toUnits := by
  unfold settled toUnits
  by_cases hzero : value.units = 0
  · simp [hzero]
  · simp [hzero]

theorem Finite.settled_of_units_ne_zero {value : Finite} (h : value.units ≠ 0) :
    value.settled = value := by
  have hbne : (value.units != 0) = true := by simpa using h
  unfold settled
  rw [hbne, Bool.and_true]

theorem one_pos : 0 < one := by
  unfold one
  generalize 1074 = exponent
  rw [Nat.shiftLeft_eq, Nat.one_mul]
  exact Nat.two_pow_pos exponent

theorem ofUnits_of_representable {negative : Bool} {units : Nat} (h : Representable units) :
    ofUnits negative units 1 = .finite ⟨negative, units, h⟩ := by
  have hround := roundUnits_eq_self h
  unfold ofUnits
  rw [dif_pos (by rw [hround]; exact h.1)]
  simp only [hround]

private theorem Finite.natAbs_truncate (value : Finite) :
    value.truncate.natAbs = value.units / one := by
  unfold truncate
  generalize value.units / one = quotient
  split
  · rw [Int.natAbs_neg, Int.natAbs_natCast]
  · rw [Int.natAbs_natCast]

theorem Finite.units_of_isWhole {value : Finite} (h : value.isWhole = true) :
    value.truncate.natAbs * one = value.units := by
  have hmod : value.units % one = 0 := by simpa [isWhole] using h
  rw [natAbs_truncate]
  exact Nat.div_mul_cancel (Nat.dvd_of_mod_eq_zero hmod)

private theorem Finite.truncate_neg_iff {value : Finite} (h : value.isWhole = true) :
    decide (value.truncate < 0) = (value.negative && value.units != 0) := by
  have hunits := units_of_isWhole h
  rw [natAbs_truncate] at hunits
  unfold truncate
  generalize value.units / one = quotient at *
  cases hnegative : value.negative with
  | false => simp
  | true =>
      by_cases hzero : value.units = 0
      · have hquotient : quotient = 0 := by
          rcases Nat.mul_eq_zero.1 (hunits.trans hzero) with h | h
          · exact h
          · exact absurd h (Nat.ne_of_gt one_pos)
        simp [hzero, hquotient]
      · have hquotient : quotient ≠ 0 := by
          rintro rfl
          exact hzero (by rw [← hunits, Nat.zero_mul])
        have hlt : -(quotient : Int) < 0 := by omega
        have hbne : (value.units != 0) = true := by simpa using hzero
        rw [if_pos rfl, hbne, decide_eq_true hlt]
        rfl

theorem ofInt_truncate {value : Finite} (h : value.isWhole = true) :
    ofInt value.truncate = .finite value.settled := by
  unfold ofInt ofFraction
  rw [Finite.units_of_isWhole h, ofUnits_of_representable value.representable,
    Finite.truncate_neg_iff h]
  rfl

private theorem fits_truncate {value : Finite} (h : value.units < wholeLimit * one) :
    (Numeral.integer value.truncate).Fits := by
  have habs : value.truncate.natAbs < wholeLimit := by
    rw [Finite.natAbs_truncate]
    exact (Nat.div_lt_iff_lt_mul one_pos).2 h
  have hlimit : wholeLimit < 1 <<< 63 := by decide
  simp only [Numeral.Fits]
  omega

/-- A finite number is written as a numeral that denotes it, up to the sign of a zero. -/
theorem exists_toJson_finite (value : Finite) :
    ∃ numeral : Numeral, toJson (.finite value) = .number numeral ∧ numeral.Fits ∧
      numeral.toNumber = .finite value.settled := by
  unfold toJson
  simp only
  split
  · rename_i h
    exact ⟨_, rfl, fits_truncate h.2, ofInt_truncate h.1⟩
  · rename_i h
    refine ⟨_, rfl, trivial, ?_⟩
    have hne : value.units ≠ 0 := by
      intro hzero
      refine h ⟨by simp [Finite.isWhole, hzero], ?_⟩
      rw [hzero]
      exact Nat.mul_pos (by decide) one_pos
    rw [Finite.settled_of_units_ne_zero hne]
    rfl

/-! ### Integers -/

/-- Rounding at most doubles a magnitude. -/
private theorem roundUnits_le (units : Nat) : roundUnits units 1 ≤ 2 * units + 1 := by
  have hpower : 2 ^ shiftOf units ≤ units + 1 := by
    rcases Nat.eq_zero_or_pos units with rfl | hpos
    · decide
    · have hshift : 2 ^ shiftOf units ≤ 2 ^ units.log2 :=
        Nat.pow_le_pow_right (by decide) (Nat.sub_le _ _)
      have hlog : 2 ^ units.log2 ≤ units := Nat.log2_self_le (Nat.ne_of_gt hpos)
      omega
  have hround := roundHalfEven_le units (1 <<< shiftOf units)
  unfold roundUnits
  simp only [Nat.div_one, Nat.shiftLeft_eq, Nat.one_mul] at hround ⊢
  generalize 2 ^ shiftOf units = power at *
  have hfloor : units / power * power ≤ units := Nat.div_mul_le_self units power
  have hscaled : roundHalfEven units power * power ≤ (units / power + 1) * power :=
    Nat.mul_le_mul_right power hround
  rw [Nat.add_mul, Nat.one_mul] at hscaled
  omega

private theorem pow_mul_shiftLeft_le {small more large : Nat} (h : more + small ≤ large) :
    2 ^ more * 1 <<< small ≤ 1 <<< large := by
  rw [Nat.shiftLeft_eq, Nat.shiftLeft_eq, Nat.one_mul, Nat.one_mul, ← Nat.pow_add]
  exact Nat.pow_le_pow_right (by decide) h

/-- Integers of at most 64 bits are finite numbers. -/
theorem exists_ofInt_eq {value : Int} (h : value.natAbs ≤ 2 ^ 64) :
    ∃ finite, ofInt value = .finite finite := by
  have hlimit : roundUnits (value.natAbs * one) 1 < limit := by
    have hround := roundUnits_le (value.natAbs * one)
    have hsmall : (2 * value.natAbs + 2) * one ≤ 2 ^ 66 * one := Nat.mul_le_mul_right one (by omega)
    have hlarge : 2 ^ 66 * one ≤ limit := pow_mul_shiftLeft_le (by decide)
    have hone := one_pos
    rw [Nat.add_mul, Nat.mul_assoc] at hsmall
    omega
  unfold ofInt ofFraction ofUnits
  rw [dif_pos hlimit]
  exact ⟨_, rfl⟩

theorem exists_toNumber_eq {numeral : Numeral} (h : numeral.Fits) :
    ∃ finite, numeral.toNumber = .finite finite := by
  cases numeral with
  | integer value =>
      obtain ⟨hlow, hhigh⟩ := h
      apply exists_ofInt_eq
      omega
  | binary value => exact ⟨value, rfl⟩

theorem toJson_settled (value : Finite) : toJson (.finite value.settled) = toJson (.finite value) := by
  by_cases hzero : value.units = 0
  · have htruncate : value.settled.truncate = value.truncate := by
      simp [Finite.truncate, Finite.settled, hzero]
    have hwhole : ∀ v : Finite, v.units = 0 → toJson (.finite v) = .number (.integer v.truncate) := by
      intro v hv
      unfold toJson
      simp only
      rw [if_pos]
      refine ⟨by simp [Finite.isWhole, hv], ?_⟩
      rw [hv]
      exact Nat.mul_pos (by decide) one_pos
    rw [hwhole value.settled hzero, hwhole value hzero, htruncate]
  · rw [Finite.settled_of_units_ne_zero hzero]

/-- Exactly the numbers that are not finite are written as null. -/
theorem toJson_eq_null_iff {number : Number} :
    number.toJson = .null ↔ ∀ finite, number ≠ .finite finite := by
  cases number with
  | finite value =>
      simp only [toJson, ne_eq, Number.finite.injEq, forall_eq', iff_false]
      split
      · simp
      · simp
  | _ => simp [toJson]

end Number

end TypedCollections
