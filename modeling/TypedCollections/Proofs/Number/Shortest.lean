import Mathlib.Algebra.Order.Field.Basic
import Mathlib.Data.Nat.Digits.Defs
import Mathlib.Data.Rat.Cast.Order
import Mathlib.Tactic.Linarith
import Mathlib.Tactic.Ring
import TypedCollections.Proofs.Number.Rounding
/-!
# Shortest decimals tell magnitudes apart

The shortest decimal of a magnitude lies in the interval of numbers that round to it: of seventeen
digits one of the two neighbours always does, because steps of seventeen digits are narrower than any
interval. Intervals of different magnitudes share no point, since two that touch belong to
significands of which one is odd. So different magnitudes have different shortest decimals.
-/

namespace TypedCollections

namespace Number

/-- The value of a decimal. -/
def Decimal.value (decimal : Decimal) : ℚ := decimal.digits * 10 ^ decimal.exponent

/-- The count of quarters of a unit lies in the interval. -/
def Interval.Holds (interval : Interval) (quarters : ℚ) : Prop :=
  if interval.closed then interval.low ≤ quarters ∧ quarters ≤ interval.high
  else interval.low < quarters ∧ quarters < interval.high

theorem Interval.Holds.bounds {interval : Interval} {quarters : ℚ} (h : interval.Holds quarters) :
    interval.low ≤ quarters ∧ quarters ≤ interval.high := by
  unfold Interval.Holds at h
  split at h
  · exact h
  · exact ⟨h.1.le, h.2.le⟩

theorem Interval.contains_iff {interval : Interval} {numerator denominator : Nat}
    (hpos : 0 < denominator) :
    interval.contains numerator denominator = true ↔
      interval.Holds ((numerator : ℚ) / denominator) := by
  have hcast : (0 : ℚ) < denominator := by exact_mod_cast hpos
  unfold Interval.contains Interval.Holds
  split
  · rw [Bool.and_eq_true, decide_eq_true_iff, decide_eq_true_iff, le_div_iff₀ hcast,
      div_le_iff₀ hcast]
    exact_mod_cast Iff.rfl
  · rw [Bool.and_eq_true, decide_eq_true_iff, decide_eq_true_iff, lt_div_iff₀ hcast,
      div_lt_iff₀ hcast]
    exact_mod_cast Iff.rfl

/-! ### Neighbours -/

theorem ten_zpow_eq (exponent : Int) :
    (10 : ℚ) ^ exponent = (10 ^ exponent.toNat : ℕ) / (10 ^ (-exponent).toNat : ℕ) := by
  cases exponent with
  | ofNat n => simp
  | negSucc n => simp [zpow_negSucc]

/-- Quarters of a unit between two neighbours on the grid `10 ^ exponent`, times `gridScale`. -/
private def gridStep (exponent : Int) : Nat := 4 * one * 10 ^ exponent.toNat

private def gridScale (exponent : Int) : Nat := 10 ^ (-exponent).toNat

private theorem gridScale_pos (exponent : Int) : 0 < gridScale exponent := Nat.pow_pos (by decide)

private theorem gridStep_pos (exponent : Int) : 0 < gridStep exponent :=
  Nat.mul_pos (Nat.mul_pos (by decide) one_pos) (Nat.pow_pos (by decide))

private theorem quarters_eq (digits : Nat) (exponent : Int) :
    4 * one * (⟨digits, exponent⟩ : Decimal).value
      = ((digits * gridStep exponent : ℕ) : ℚ) / gridScale exponent := by
  rw [Decimal.value, ten_zpow_eq, gridStep, gridScale]
  push_cast
  ring

/-- A neighbour that is taken lies in the interval of the magnitude. -/
theorem holds_of_neighbour? {tie : Tie} {units : Nat} {exponent : Int} {decimal : Decimal}
    (h : neighbour? tie units exponent = some decimal) :
    (intervalOf units).Holds (4 * one * decimal.value) := by
  have hholds : ∀ digits, (intervalOf units).contains (digits * gridStep exponent)
      (gridScale exponent) = true →
        (intervalOf units).Holds (4 * one * (⟨digits, exponent⟩ : Decimal).value) := by
    intro digits hcontains
    rw [quarters_eq]
    exact (Interval.contains_iff (gridScale_pos exponent)).1 hcontains
  unfold neighbour? at h
  simp only at h
  split at h
  · cases h
  · cases h
    exact hholds _ (by assumption)
  · cases h
    exact hholds _ (by assumption)
  · rename_i hbelow habove
    cases h
    have hboth : ∀ takesAbove : Prop, ∀ _ : Decidable takesAbove, (intervalOf units).Holds (4 * one *
        (⟨if takesAbove then 4 * units * gridScale exponent / gridStep exponent + 1
          else 4 * units * gridScale exponent / gridStep exponent, exponent⟩ : Decimal).value) := by
      intro takesAbove _
      by_cases htakes : takesAbove
      · rw [if_pos htakes]
        exact hholds _ habove
      · rw [if_neg htakes]
        exact hholds _ hbelow
    exact hboth _ _

/-- If no neighbour is taken, neither lies in the interval. -/
private theorem contains_of_neighbour?_eq_none {tie : Tie} {units : Nat} {exponent : Int}
    (h : neighbour? tie units exponent = none) :
    (intervalOf units).contains (4 * units * gridScale exponent / gridStep exponent
        * gridStep exponent) (gridScale exponent) = false ∧
      (intervalOf units).contains ((4 * units * gridScale exponent / gridStep exponent + 1)
        * gridStep exponent) (gridScale exponent) = false := by
  unfold neighbour? at h
  simp only at h
  split at h
  · rename_i hbelow habove
    exact ⟨hbelow, habove⟩
  · cases h
  · cases h
  · cases h

theorem Decimal.value_strip (decimal : Decimal) (fuel : Nat) :
    (decimal.strip fuel).value = decimal.value := by
  induction fuel generalizing decimal with
  | zero => rfl
  | succ fuel ih =>
      unfold Decimal.strip
      split
      · rename_i h
        rw [ih]
        have hdigits : decimal.digits = 10 * (decimal.digits / 10) := by omega
        simp only [Decimal.value]
        rw [zpow_add₀ (by norm_num)]
        conv_rhs => rw [hdigits]
        push_cast
        ring
      · rfl

/-! ### Intervals -/

/-- A magnitude is its significand, shifted. If it is shifted, the significand has all its bits. -/
theorem exists_significand {units : Nat} (h : Representable units) :
    ∃ significand, units = significand * 2 ^ shiftOf units ∧ significand < 2 ^ 53 ∧
      (0 < shiftOf units → 2 ^ 52 ≤ significand) := by
  have hround := roundUnits_eq_self h
  simp only [roundUnits, Nat.div_one, Nat.shiftLeft_eq, Nat.one_mul] at hround
  generalize roundHalfEven units (2 ^ shiftOf units) = significand at hround
  refine ⟨significand, hround.symm, ?_, fun hshift => ?_⟩
  · have hlt : significand * 2 ^ shiftOf units < 2 ^ 53 * 2 ^ shiftOf units := by
      rw [hround, ← Nat.pow_add]
      refine Nat.lt_of_lt_of_le Nat.lt_log2_self (Nat.pow_le_pow_right (by decide) ?_)
      unfold shiftOf
      omega
    exact Nat.lt_of_mul_lt_mul_right hlt
  · have hquotient : units / 2 ^ shiftOf units = significand :=
      Nat.div_eq_of_eq_mul_left (Nat.two_pow_pos _) hround.symm
    rw [← hquotient]
    exact le_significand hshift

private theorem intervalOf_eq {units significand : Nat}
    (h : units = significand * 2 ^ shiftOf units) :
    intervalOf units = ⟨4 * units -
        (if significand = 2 ^ 52 ∧ 0 < shiftOf units then 2 ^ shiftOf units
          else 2 * 2 ^ shiftOf units),
      4 * units + 2 * 2 ^ shiftOf units, significand % 2 = 0⟩ := by
  have hquotient : units >>> shiftOf units = significand := by
    have hcancel := Nat.mul_div_cancel significand (Nat.two_pow_pos (shiftOf units))
    rwa [← h, ← Nat.shiftRight_eq_div_pow] at hcancel
  unfold intervalOf
  simp only [hquotient, Nat.shiftLeft_eq, Nat.one_mul]

/-- The interval of a magnitude is wider than seventeen digits can miss. -/
private theorem lt_width {units : Nat} (h : Representable units) (hpos : 0 < units) :
    (intervalOf units).low < 4 * units ∧ 4 * units < (intervalOf units).high ∧
      0 < (intervalOf units).low ∧
      4 * units < ((intervalOf units).high - (intervalOf units).low) * 10 ^ 16 := by
  obtain ⟨significand, heq, hlt, -⟩ := exists_significand h
  rw [intervalOf_eq heq]
  generalize shiftOf units = shift at heq
  subst heq
  have hpower := Nat.two_pow_pos shift
  generalize 2 ^ shift = power at *
  have hsignificand : 0 < significand := Nat.pos_of_mul_pos_right hpos
  have hle : power ≤ significand * power := Nat.le_mul_of_pos_left power hsignificand
  simp only
  split
  · rename_i hboundary
    obtain ⟨rfl, -⟩ := hboundary
    omega
  · have hless : significand * power < 2 ^ 53 * power := Nat.mul_lt_mul_of_pos_right hlt hpower
    omega

/-- A power of ten below a positive number with as many digits. -/
private theorem pow_length_digitChars_le {n : Nat} (h : 0 < n) :
    10 ^ ((digitChars n).length - 1) ≤ n := by
  by_contra hlt
  rw [Nat.not_le] at hlt
  rcases Nat.eq_zero_or_pos ((digitChars n).length - 1) with hzero | hpos
  · rw [hzero] at hlt
    omega
  · have hle := Nat.toDigits_length 10 n _ hpos hlt
    unfold digitChars at *
    omega

/-- The length of a scaled magnitude bounds it from below, whatever power of ten scales it. -/
private theorem one_mul_zpow_le {units scale places : Nat} (h : 0 < units)
    (hscale : scale = Nat.pow 10 places) (hlarge : one ≤ scale) :
    (one : ℚ) * 10 ^ (((digitChars (units * scale / one)).length : Int) - (places + 1 : ℕ))
      ≤ units := by
  have hquotient : 0 < units * scale / one :=
    Nat.div_pos (Nat.le_trans hlarge (Nat.le_mul_of_pos_left _ h)) one_pos
  have hlength : 0 < (digitChars (units * scale / one)).length :=
    List.length_pos_iff.2 Nat.toDigits_ne_nil
  have hle : one * 10 ^ ((digitChars (units * scale / one)).length - 1) ≤ units * scale := by
    rw [Nat.mul_comm]
    refine Nat.le_trans (Nat.mul_le_mul_right one (pow_length_digitChars_le hquotient)) ?_
    exact Nat.div_mul_le_self _ _
  generalize (digitChars (units * scale / one)).length = length at *
  rw [hscale, Nat.pow_eq] at hle
  have hcast : (one : ℚ) * 10 ^ (length - 1) ≤ units * 10 ^ places := by exact_mod_cast hle
  have hexponent : (length : Int) - (places + 1 : ℕ) = ((length - 1 : ℕ) : Int) - (places : ℕ) := by
    omega
  rw [hexponent, zpow_sub₀ (by norm_num), zpow_natCast, zpow_natCast, ← mul_div_assoc]
  exact (div_le_iff₀ (by positivity)).2 hcast

/-- The leading decimal digit stands at its exponent: that power of ten is not above the magnitude. -/
private theorem one_mul_pow_le {units : Nat} (h : 0 < units) :
    (one : ℚ) * 10 ^ leadingExponent units ≤ units :=
  @one_mul_zpow_le units (Nat.pow 10 324) 324 h (by decide +kernel) (by decide +kernel)

/-- Steps of seventeen digits are small against the magnitude. -/
private theorem gridStep_mul_le {units : Nat} (h : 0 < units) :
    gridStep (leadingExponent units - (16 : ℕ)) * 10 ^ 16
      ≤ 4 * units * gridScale (leadingExponent units - (16 : ℕ)) := by
  have hleading := one_mul_pow_le h
  have hsplit : leadingExponent units = leadingExponent units - (16 : ℕ) + (16 : ℕ) := by omega
  rw [hsplit, zpow_add₀ (by norm_num), zpow_natCast, ten_zpow_eq] at hleading
  generalize leadingExponent units - (16 : ℕ) = exponent at *
  have hscale : (0 : ℚ) < (10 ^ (-exponent).toNat : ℕ) := by exact_mod_cast gridScale_pos exponent
  rw [div_mul_eq_mul_div, ← mul_div_assoc, div_le_iff₀ hscale] at hleading
  have hcast : one * (10 ^ exponent.toNat * 10 ^ 16) ≤ units * gridScale exponent := by
    exact_mod_cast hleading
  unfold gridStep
  calc 4 * one * 10 ^ exponent.toNat * 10 ^ 16
      = 4 * (one * (10 ^ exponent.toNat * 10 ^ 16)) := by ring
    _ ≤ 4 * (units * gridScale exponent) := Nat.mul_le_mul_left 4 hcast
    _ = 4 * units * gridScale exponent := by ring

/-- Where neither of two neighbours around a point of the interval lies in it, the step between them
is wider than the interval. -/
private theorem width_le_step {interval : Interval} {quarters scale step : Nat} (hscale : 0 < scale)
    (hlow : interval.low < quarters) (hhigh : quarters < interval.high) (hstep : 0 < step)
    (hbelow : interval.contains (quarters * scale / step * step) scale = false)
    (habove : interval.contains ((quarters * scale / step + 1) * step) scale = false) :
    (interval.high - interval.low) * scale ≤ step := by
  have hunder : quarters * scale / step * step ≤ quarters * scale := Nat.div_mul_le_self _ _
  have hover : quarters * scale < (quarters * scale / step + 1) * step := by
    rw [Nat.add_mul, Nat.one_mul]
    exact Nat.lt_div_mul_add hstep
  have hlow := Nat.mul_lt_mul_of_pos_right hlow hscale
  have hhigh := Nat.mul_lt_mul_of_pos_right hhigh hscale
  generalize quarters * scale / step = digits at *
  rw [Nat.add_mul, Nat.one_mul] at *
  rw [Nat.sub_mul]
  unfold Interval.contains at hbelow habove
  split at hbelow
  · rename_i hclosed
    rw [if_pos hclosed] at habove
    simp only [Bool.and_eq_false_iff, decide_eq_false_iff_not] at hbelow habove
    omega
  · rename_i hclosed
    rw [if_neg hclosed] at habove
    simp only [Bool.and_eq_false_iff, decide_eq_false_iff_not] at hbelow habove
    omega

/-- Of seventeen digits, one of the two neighbours rounds to the magnitude. -/
private theorem neighbour?_leading_ne_none (tie : Tie) {units : Nat} (h : Representable units)
    (hpos : 0 < units) : neighbour? tie units (leadingExponent units - (16 : ℕ)) ≠ none := by
  intro hnone
  obtain ⟨hbelow, habove⟩ := contains_of_neighbour?_eq_none hnone
  obtain ⟨hlow, hhigh, -, hwidth⟩ := lt_width h hpos
  have hscale := gridScale_pos (leadingExponent units - (16 : ℕ))
  have hle := width_le_step hscale hlow hhigh (gridStep_pos _) hbelow habove
  have hsmall := gridStep_mul_le hpos
  have hwide := Nat.mul_lt_mul_of_pos_right hwidth hscale
  have hscaled := Nat.mul_le_mul_right (10 ^ 16) hle
  rw [Nat.mul_right_comm] at hscaled
  omega

/-- The shortest decimal rounds to the magnitude it was taken for. -/
theorem holds_shortest (tie : Tie) {units : Nat} (h : Representable units) (hpos : 0 < units) :
    (intervalOf units).Holds (4 * one * (shortest tie units).value) := by
  unfold shortest
  simp only
  rw [Decimal.value_strip]
  cases hfound : (List.range 17).findSome? fun more =>
      neighbour? tie units (leadingExponent units - (more : Nat)) with
  | none =>
      rw [List.findSome?_eq_none_iff] at hfound
      exact absurd (hfound 16 (by decide)) (neighbour?_leading_ne_none tie h hpos)
  | some decimal =>
      obtain ⟨more, -, hneighbour⟩ := List.exists_of_findSome?_eq_some hfound
      exact holds_of_neighbour? hneighbour

/-! ### Intervals of different magnitudes -/

/-- The interval of a smaller magnitude ends before that of a larger one begins, or where it begins,
and then one of the two does not hold the end. -/
private theorem high_le_low {small large : Nat} (hsmall : Representable small)
    (hlarge : Representable large) (hlt : small < large) :
    (intervalOf small).high ≤ (intervalOf large).low ∧
      ((intervalOf small).high = (intervalOf large).low →
        (intervalOf small).closed = true → (intervalOf large).closed = false) := by
  obtain ⟨m, hm, hmlt, hmle⟩ := exists_significand hsmall
  obtain ⟨n, hn, hnlt, hnle⟩ := exists_significand hlarge
  have hshift := shiftOf_le_shiftOf hlt.le
  have hhigh : (intervalOf small).high = 4 * small + 2 * 2 ^ shiftOf small := by
    rw [intervalOf_eq hm]
  have hsmallClosed : (intervalOf small).closed = decide (m % 2 = 0) := by rw [intervalOf_eq hm]
  rw [hhigh, hsmallClosed, intervalOf_eq hn]
  simp only [decide_eq_true_eq, decide_eq_false_iff_not]
  generalize shiftOf small = fine at *
  generalize shiftOf large = coarse at *
  have hpower := Nat.two_pow_pos fine
  rcases Nat.eq_or_lt_of_le hshift with rfl | hfiner
  · -- On one grid the larger significand is at least the next one.
    subst hm hn
    have hboundary : ¬ (n = 2 ^ 52 ∧ 0 < fine) := by
      have hnext : m < n := Nat.lt_of_mul_lt_mul_right hlt
      omega
    rw [if_neg hboundary]
    generalize 2 ^ fine = power at *
    have hnext : m + 1 ≤ n := Nat.lt_of_mul_lt_mul_right hlt
    have hmul : (m + 1) * power ≤ n * power := Nat.mul_le_mul_right power hnext
    rw [Nat.add_mul, Nat.one_mul] at hmul
    refine ⟨by omega, fun hequal hclosed => ?_⟩
    have hproduct : n * power = (m + 1) * power := by
      rw [Nat.add_mul, Nat.one_mul]
      omega
    have hsucc := Nat.eq_of_mul_eq_mul_right hpower hproduct
    omega
  · -- The larger magnitude lies on a coarser grid and has all bits of its significand.
    have hfull := hnle (by omega)
    obtain ⟨more, rfl⟩ := Nat.exists_eq_add_of_lt hfiner
    have hcoarse : 2 ^ (fine + more + 1) = 2 * (2 ^ more * 2 ^ fine) := by
      rw [Nat.pow_succ, Nat.pow_add]
      ring
    have hmore : 2 ^ fine ≤ 2 ^ more * 2 ^ fine :=
      Nat.le_mul_of_pos_left _ (Nat.two_pow_pos more)
    rw [hcoarse] at hn
    rw [hcoarse]
    subst hm hn
    generalize 2 ^ more * 2 ^ fine = wide at *
    generalize 2 ^ fine = power at *
    have hmul : m * power ≤ (2 ^ 53 - 1) * power := Nat.mul_le_mul_right power (by omega)
    rw [Nat.mul_left_comm n 2 wide]
    by_cases hboundary : n = 2 ^ 52
    · rw [if_pos ⟨hboundary, by omega⟩, hboundary]
      refine ⟨by omega, fun hequal hclosed => ?_⟩
      have hproduct : m * power = (2 ^ 53 - 1) * power := by omega
      have hodd := Nat.eq_of_mul_eq_mul_right hpower hproduct
      omega
    · rw [if_neg fun h => hboundary h.1]
      have habove : (2 ^ 52 + 1) * wide ≤ n * wide := Nat.mul_le_mul_right wide (by omega)
      exact ⟨by omega, fun hequal => by omega⟩

/-- Two magnitudes whose intervals share a point are one. -/
private theorem not_lt_of_holds {small large : Nat} (hsmall : Representable small)
    (hlarge : Representable large) {quarters : ℚ} (h : (intervalOf small).Holds quarters)
    (h' : (intervalOf large).Holds quarters) : ¬ small < large := by
  intro hlt
  obtain ⟨hle, hend⟩ := high_le_low hsmall hlarge hlt
  have hcast : ((intervalOf small).high : ℚ) ≤ (intervalOf large).low := Nat.cast_le.2 hle
  have hhigh := h.bounds.2
  have hlow := h'.bounds.1
  have hequal : (intervalOf small).high = (intervalOf large).low := by
    have hcast' : ((intervalOf small).high : ℚ) = (intervalOf large).low := by linarith
    exact_mod_cast hcast'
  unfold Interval.Holds at h h'
  cases hclosed : (intervalOf small).closed with
  | true =>
      rw [hend hequal hclosed] at h'
      simp only [Bool.false_eq_true, if_false] at h'
      linarith [h'.1]
  | false =>
      rw [hclosed] at h
      simp only [Bool.false_eq_true, if_false] at h
      linarith [h.2]

theorem eq_of_holds {a b : Nat} (ha : Representable a) (hb : Representable b) {quarters : ℚ}
    (h : (intervalOf a).Holds quarters) (h' : (intervalOf b).Holds quarters) : a = b :=
  Nat.le_antisymm (Nat.not_lt.1 (not_lt_of_holds hb ha h' h))
    (Nat.not_lt.1 (not_lt_of_holds ha hb h h'))

/-- The shortest decimals of different magnitudes are different numbers. -/
theorem eq_of_value_shortest_eq (tie : Tie) {a b : Nat} (ha : Representable a)
    (hb : Representable b) (hapos : 0 < a) (hbpos : 0 < b)
    (h : (shortest tie a).value = (shortest tie b).value) : a = b := by
  have hholds := holds_shortest tie ha hapos
  rw [h] at hholds
  exact eq_of_holds ha hb hholds (holds_shortest tie hb hbpos)

/-- The shortest decimal of a positive magnitude is positive. -/
theorem value_shortest_pos (tie : Tie) {units : Nat} (h : Representable units) (hpos : 0 < units) :
    0 < (shortest tie units).value := by
  have hlow := (holds_shortest tie h hpos).bounds.1
  have hcast : (0 : ℚ) < (intervalOf units).low := Nat.cast_pos.2 (lt_width h hpos).2.2.1
  have hone : (0 : ℚ) < one := Nat.cast_pos.2 one_pos
  by_contra hnot
  have hproduct : (4 * one * (shortest tie units).value : ℚ) ≤ 0 :=
    mul_nonpos_of_nonneg_of_nonpos (by linarith) (not_lt.1 hnot)
  linarith

end Number

end TypedCollections
