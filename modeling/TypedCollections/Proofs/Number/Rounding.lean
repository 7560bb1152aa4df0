import TypedCollections.Proofs.Number
/-!
# Rounding keeps order

A larger magnitude is never rounded to a smaller one: on one grid the quotients are in order, and
where the grid becomes coarser, every significand of the coarser grid lies above what the finer one
can be rounded to. So the numbers nearest to two integers are in the order of the integers, however
large these are.
-/

namespace TypedCollections

namespace Number

/-! ### Magnitudes -/

theorem le_roundHalfEven (numerator denominator : Nat) :
    numerator / denominator ≤ roundHalfEven numerator denominator := by
  unfold roundHalfEven
  simp only
  split
  · exact Nat.le_refl _
  · split
    · exact Nat.le_succ _
    · exact Nat.le_add_right _ _

theorem roundHalfEven_mono {small large : Nat} (h : small ≤ large) (denominator : Nat) :
    roundHalfEven small denominator ≤ roundHalfEven large denominator := by
  rcases Nat.lt_or_eq_of_le (Nat.div_le_div_right (c := denominator) h) with hlt | heq
  · calc
      roundHalfEven small denominator ≤ small / denominator + 1 := roundHalfEven_le _ _
      _ ≤ large / denominator := hlt
      _ ≤ roundHalfEven large denominator := le_roundHalfEven _ _
  · -- Of one quotient the remainders are in order, and with them what they are compared with.
    have hremainder : small % denominator ≤ large % denominator := by
      have hsmall := Nat.div_add_mod small denominator
      have hlarge := Nat.div_add_mod large denominator
      rw [heq] at hsmall
      omega
    have hparity : large / denominator % 2 < 2 := Nat.mod_lt _ (by decide)
    unfold roundHalfEven
    simp only [heq]
    generalize large / denominator = floor at *
    split
    · split
      · exact Nat.le_refl _
      · split <;> omega
    · rw [if_neg (show ¬ 2 * (large % denominator) < denominator by omega)]
      split
      · exact Nat.le_of_eq (if_pos (by omega)).symm
      · split <;> omega

theorem shiftOf_le_shiftOf {small large : Nat} (h : small ≤ large) :
    shiftOf small ≤ shiftOf large := by
  unfold shiftOf
  rcases Nat.eq_zero_or_pos small with rfl | hpos
  · simp
  · have hlog : small.log2 ≤ large.log2 := by
      rw [Nat.le_log2 (by omega)]
      exact Nat.le_trans (Nat.log2_self_le (by omega)) h
    omega

/-- A significand that is shifted has all its bits before it is rounded. -/
theorem le_significand {units : Nat} (hshift : 0 < shiftOf units) :
    2 ^ 52 ≤ units / 2 ^ shiftOf units := by
  unfold shiftOf at hshift ⊢
  have hne : units ≠ 0 := by
    rintro rfl
    simp at hshift
  rw [Nat.le_div_iff_mul_le (Nat.two_pow_pos _), ← Nat.pow_add]
  refine Nat.le_trans (Nat.pow_le_pow_right (by decide) ?_) (Nat.log2_self_le hne)
  omega

/-- Rounding keeps the order of magnitudes. -/
theorem roundUnits_mono {small large : Nat} (h : small ≤ large) (denominator : Nat) :
    roundUnits small denominator ≤ roundUnits large denominator := by
  have hquotient : small / denominator ≤ large / denominator := Nat.div_le_div_right h
  have hsignificand := significand_le small denominator
  have hfull : 0 < shiftOf (large / denominator) →
      2 ^ 52 ≤ large / denominator / 2 ^ shiftOf (large / denominator) := le_significand
  have hbelow := le_roundHalfEven large
    (denominator <<< shiftOf (large / denominator))
  unfold roundUnits
  simp only [Nat.shiftLeft_eq, Nat.one_mul] at hsignificand hbelow ⊢
  rw [← Nat.div_div_eq_div_mul] at hbelow
  rcases Nat.lt_or_eq_of_le (shiftOf_le_shiftOf hquotient) with hlt | heq
  · generalize shiftOf (small / denominator) = fine at *
    generalize shiftOf (large / denominator) = coarse at *
    calc
      roundHalfEven small (denominator * 2 ^ fine) * 2 ^ fine ≤ 2 ^ 53 * 2 ^ fine :=
        Nat.mul_le_mul_right _ hsignificand
      _ = 2 ^ 52 * 2 ^ (fine + 1) := by rw [Nat.pow_succ 2 52, Nat.mul_assoc, ← Nat.pow_succ']
      _ ≤ 2 ^ 52 * 2 ^ coarse := Nat.mul_le_mul_left _ (Nat.pow_le_pow_right (by decide) hlt)
      _ ≤ roundHalfEven large (denominator * 2 ^ coarse) * 2 ^ coarse :=
        Nat.mul_le_mul_right _ (Nat.le_trans (hfull (by omega)) hbelow)
  · rw [heq]
    exact Nat.mul_le_mul_right _ (roundHalfEven_mono h _)

/-! ### Integers -/

/-- The order of numbers. What is not a number is not at most anything. -/
def AtMost (first second : Number) : Prop := first.below second = true ∨ first.equal second = true

theorem ofUnits_atMost {small large : Nat} (h : small ≤ large) (denominator : Nat) :
    (ofUnits false small denominator).AtMost (ofUnits false large denominator) := by
  have hround := roundUnits_mono h denominator
  unfold ofUnits
  by_cases hlarge : roundUnits large denominator < limit
  · rw [dif_pos hlarge, dif_pos (Nat.lt_of_le_of_lt hround hlarge)]
    rcases Nat.lt_or_eq_of_le hround with hlt | heq
    · left
      simpa [below, Finite.toUnits] using hlt
    · right
      simp [equal, Finite.toUnits, heq]
  · rw [dif_neg hlarge]
    split
    · exact .inl rfl
    · exact .inr rfl

/-- The numbers nearest to two integers are in the order of the integers. -/
theorem ofInt_atMost {first second : Nat} (h : first ≤ second) :
    (ofInt first).AtMost (ofInt second) := by
  have hnegative : ∀ n : Nat, decide ((n : Int) < 0) = false := fun n => by simp
  unfold ofInt ofFraction
  rw [hnegative, hnegative, Int.natAbs_natCast, Int.natAbs_natCast]
  exact ofUnits_atMost (Nat.mul_le_mul_right one h) 1

/-- The number nearest to an integer that is not negative has no sign. -/
theorem settled_of_ofInt {n : Nat} {finite : Finite} (h : ofInt n = .finite finite) :
    finite.settled = finite := by
  have hpositive : finite.negative = false := by
    unfold ofInt ofFraction ofUnits at h
    split at h
    · cases h
      simp
    · cases h
  obtain ⟨negative, units, representable⟩ := finite
  cases hpositive
  rfl

end Number

end TypedCollections
