import CoSimulation.Proofs.Binary64.Instant

/-!
# Counts as numbers

A 64-bit count becomes the nearest number, and a number becomes the count that it begins
with.  There and back a count can grow, but by at most one part in `2 ^ 53`, which is half
a step of the significand: counts below `2 ^ 53` come back as they were.
-/

namespace CoSimulation.Binary64

/-! ## Half a step -/

/-- Rounding adds at most half of what is divided by, and less unless the result is even. -/
theorem divideToEven_mul_le (numerator : Nat) {denominator : Nat} (positive : 0 < denominator) :
    2 * (divideToEven numerator denominator * denominator) +
        divideToEven numerator denominator % 2 ≤ 2 * numerator + denominator := by
  have split : denominator * (numerator / denominator) + numerator % denominator = numerator :=
    Nat.div_add_mod numerator denominator
  have rest : numerator % denominator < denominator := Nat.mod_lt _ positive
  have parity : numerator / denominator % 2 ≤ 1 := by omega
  have commuted := Nat.mul_comm (numerator / denominator) denominator
  simp only [divideToEven]
  split_ifs
  · omega
  · rw [Nat.add_mul]
    omega
  · have extra : numerator / denominator % 2 * denominator ≤ denominator := by
      simpa using Nat.mul_le_mul_right denominator parity
    rw [Nat.add_mul]
    omega

/-- A significand of the given scale in units; at its upper limit the next binade begins. -/
theorem unitsOf_scaled {scale significand : Nat} (normal : scale = 0 ∨ 2 ^ 52 ≤ significand)
    (bounded : significand ≤ 2 ^ 53) :
    unitsOf (scale * 2 ^ 52 + significand) = significand * 2 ^ scale := by
  rw [unitsOf_eq]
  by_cases small : scale * 2 ^ 52 + significand < 2 ^ 52
  · have unscaled : scale = 0 := by omega
    have subnormal : significand < 2 ^ 52 := by omega
    simp only [unscaled, Nat.zero_mul, Nat.zero_add, Nat.pow_zero, Nat.mul_one, if_pos subnormal]
  · rw [if_neg small]
    have whole : 2 ^ 52 ≤ significand := by omega
    by_cases full : significand = 2 ^ 53
    · have quotient : (scale * 2 ^ 52 + significand) / 2 ^ 52 - 1 = scale + 1 := by omega
      have remainder : (scale * 2 ^ 52 + significand) % 2 ^ 52 = 0 := by omega
      rw [quotient, remainder, full]
      ring
    · have quotient : (scale * 2 ^ 52 + significand) / 2 ^ 52 - 1 = scale := by omega
      have remainder : (scale * 2 ^ 52 + significand) % 2 ^ 52 = significand - 2 ^ 52 := by omega
      have joined : 2 ^ 52 + (significand - 2 ^ 52) = significand := by omega
      rw [quotient, remainder, joined]

theorem significand_le (count : Nat) : divideToEven count (2 ^ scaleOf count) ≤ 2 ^ 53 := by
  simpa using scaled_le count 1

theorem scaled_normal (numerator denominator : Nat) :
    scaleOf (numerator / denominator) = 0 ∨
      2 ^ 52 ≤ divideToEven numerator (denominator * 2 ^ scaleOf (numerator / denominator)) := by
  rcases Nat.eq_zero_or_pos (scaleOf (numerator / denominator)) with unscaled | scaled
  · exact .inl unscaled
  · exact .inr (le_scaled scaled)

theorem significand_normal (count : Nat) :
    scaleOf count = 0 ∨ 2 ^ 52 ≤ divideToEven count (2 ^ scaleOf count) := by
  simpa using scaled_normal count 1

/-- Rounding adds at most half a step, and a significand has at least `2 ^ 52` steps. -/
theorem unitsOf_nearest_le (count : Nat) :
    unitsOf (nearestMagnitude count 1) ≤ count + count / 2 ^ 53 := by
  have half := divideToEven_mul_le count (Nat.two_pow_pos (scaleOf count))
  rw [nearestMagnitude_one]
  apply Nat.le_trans (unitsOf_mono (Nat.min_le_left _ _))
  rw [unitsOf_scaled (significand_normal count) (significand_le count)]
  rcases Nat.eq_zero_or_pos (scaleOf count) with unscaled | scaled
  · rw [unscaled] at half ⊢
    omega
  · have large := twoPow_scaleOf_le scaled
    have step : 2 ^ scaleOf count = 2 * 2 ^ (scaleOf count - 1) := by
      rw [← Nat.pow_succ', Nat.succ_eq_add_one, Nat.sub_add_cancel scaled]
    have share : 2 ^ (scaleOf count - 1) ≤ count / 2 ^ 53 := by
      rw [Nat.le_div_iff_mul_le (Nat.two_pow_pos _), ← Nat.pow_add]
      have exponent : scaleOf count - 1 + 53 = scaleOf count + 52 := by omega
      rwa [exponent]
    omega

/-! ## There and back -/

theorem isInstant_ofNat (n : Nat) : IsInstant (ofNat n) :=
  isInstant_ofParts (nearestMagnitude_le _ _)

theorem magnitude_ofNat (n : Nat) :
    (ofNat n).magnitude = nearestMagnitude (n * unitsInOne) 1 :=
  ofParts_magnitude false (nearestMagnitude_le _ _)

/-- 64-bit counts are far below the infinite. -/
theorem isFinite_ofNat {n : Nat} (counts : n ≤ countLimit) :
    (ofNat n).magnitude < infinityMagnitude := by
  have limit : nearestMagnitude (2 ^ 64 * unitsInOne) 1 = 1087 * 2 ^ 52 := by
    have units : unitsOf (1087 * 2 ^ 52) = 2 ^ 64 * unitsInOne := by
      decide +kernel
    rw [← units]
    exact nearestMagnitude_unitsOf (by decide)
  rw [magnitude_ofNat]
  calc
    nearestMagnitude (n * unitsInOne) 1 ≤ nearestMagnitude (2 ^ 64 * unitsInOne) 1 :=
      nearestMagnitude_mono (Nat.mul_le_mul_right _ (Nat.le_trans counts (by decide)))
    _ = 1087 * 2 ^ 52 := limit
    _ < infinityMagnitude := by decide

theorem toCount_le_countLimit (x : Binary64) : x.toCount ≤ countLimit := by
  simp only [toCount]
  split
  · exact Nat.zero_le _
  · split
    · exact Nat.le_refl _
    · exact Nat.min_le_right _ _

/-- A count that becomes a number and a count again. -/
def roundTrip (n : Nat) : Nat := (ofNat n).toCount

theorem roundTrip_le (n : Nat) : roundTrip n ≤ n + n / 2 ^ 53 := by
  rcases Nat.lt_or_ge n countLimit with counts | beyond
  · have finite := isFinite_ofNat (Nat.le_of_lt counts)
    have instant := isInstant_ofNat n
    have share : n * unitsInOne / 2 ^ 53 = n * 2 ^ 1021 := by
      have power : unitsInOne = 2 ^ 1021 * 2 ^ 53 := by decide +kernel
      rw [power, ← Nat.mul_assoc, Nat.mul_div_cancel _ (Nat.two_pow_pos 53)]
    calc
      roundTrip n = Nat.min (unitsOf (ofNat n).magnitude / unitsInOne) countLimit := by
        simp [roundTrip, toCount, instant.isNaN_eq, instant.unsigned, isInfinite,
          Nat.ne_of_lt finite]
      _ ≤ unitsOf (nearestMagnitude (n * unitsInOne) 1) / unitsInOne := by
        rw [magnitude_ofNat]
        exact Nat.min_le_left _ _
      _ ≤ (n * unitsInOne + n * 2 ^ 1021) / unitsInOne := by
        rw [← share]
        exact Nat.div_le_div_right (unitsOf_nearest_le _)
      _ = n + n / 2 ^ 53 := by
        have power : unitsInOne = 2 ^ 53 * 2 ^ 1021 := by decide +kernel
        rw [Nat.mul_comm n unitsInOne, Nat.mul_add_div (by decide +kernel), power,
          Nat.mul_div_mul_right _ _ (Nat.two_pow_pos 1021)]
  · exact Nat.le_trans (toCount_le_countLimit _) (Nat.le_trans beyond (Nat.le_add_right _ _))

/-! ## Cutting a number to a count -/

/-- A number that does not exceed an instant does not begin with a larger count. -/
theorem toCount_le_of_not_lt {x y : Binary64} (instant : y.IsInstant) (notLess : ¬ y < x) :
    x.toCount ≤ y.toCount := by
  by_cases counted : x.isNaN = true ∨ x.negative = true
  · have none : x.toCount = 0 := by
      rcases counted with nan | signed
      · simp [toCount, nan]
      · simp [toCount, signed]
    exact none ▸ Nat.zero_le _
  · obtain ⟨numeric, unsigned⟩ : x.isNaN = false ∧ x.negative = false := by
      simpa using counted
    have left : x.IsInstant := ⟨unsigned, by simpa [isNaN] using numeric⟩
    have magnitudes : x.magnitude ≤ y.magnitude := by
      rw [instant.lt_iff left, instant.rank_eq, left.rank_eq] at notLess
      omega
    by_cases infinite : y.magnitude = infinityMagnitude
    · have limit : y.toCount = countLimit := by
        simp [toCount, instant.isNaN_eq, instant.unsigned, isInfinite, infinite]
      exact limit ▸ toCount_le_countLimit x
    · have finite : x.magnitude ≠ infinityMagnitude := by
        have below := instant.numeric
        omega
      simp only [toCount, numeric, unsigned, instant.isNaN_eq, instant.unsigned, isInfinite,
        infinite, finite, Bool.or_self, Bool.false_eq_true, if_false, beq_iff_eq]
      exact min_le_min_right _ (Nat.div_le_div_right (unitsOf_mono magnitudes))

theorem toCount_clamp_le (x : Binary64) {high : Binary64} (instant : high.IsInstant) :
    (x.clamp 0 high).toCount ≤ high.toCount := by
  simp only [clamp]
  by_cases above : high < if x < 0 then 0 else x
  · exact Nat.le_of_eq (congrArg toCount (if_pos above))
  · rw [if_neg above]
    exact toCount_le_of_not_lt instant above

theorem clamp_of_le {x : Binary64} (instant : x.IsInstant) : x.clamp 0 x = x := by
  have nonneg : ¬ x < 0 := by
    rw [instant.lt_iff isInstant_zero, rank_zero]
    exact Int.not_lt.2 instant.rank_nonneg
  simp [clamp, nonneg]

/-! ## Products and quotients -/

section

variable {x y : Binary64}

theorem IsInstant.mul_eq (left : x.IsInstant) (leftFinite : x.magnitude < infinityMagnitude)
    (right : y.IsInstant) (rightFinite : y.magnitude < infinityMagnitude) :
    x * y = nearest false (unitsOf x.magnitude * unitsOf y.magnitude) unitsInOne := by
  change passNaN x y (x.product y) = _
  simp [passNaN, Binary64.product, left.isNaN_eq, right.isNaN_eq, left.unsigned,
    right.unsigned, isInfinite, Nat.ne_of_lt leftFinite, Nat.ne_of_lt rightFinite]

theorem IsInstant.div_eq (left : x.IsInstant) (leftFinite : x.magnitude < infinityMagnitude)
    (right : y.IsInstant) (rightFinite : y.magnitude < infinityMagnitude)
    (nonzero : y.magnitude ≠ 0) :
    x / y = nearest false (unitsOf x.magnitude * unitsInOne) (unitsOf y.magnitude) := by
  change passNaN x y (x.quotient y) = _
  simp [passNaN, Binary64.quotient, left.isNaN_eq, right.isNaN_eq, left.unsigned,
    right.unsigned, isInfinite, isZero, Nat.ne_of_lt leftFinite, Nat.ne_of_lt rightFinite,
    nonzero]

end

/-! ## Nothing taken away -/

theorem zero_mul {x : Binary64} (instant : x.IsInstant) (finite : x.magnitude < infinityMagnitude) :
    0 * x = 0 := by
  have none : unitsOf (0 : Binary64).magnitude = 0 := by
    rw [zero_eq]
    rfl
  have rounded : nearest false 0 unitsInOne = 0 := by decide +kernel
  rw [isInstant_zero.mul_eq (by decide +kernel) instant finite, none, Nat.zero_mul, rounded]

/-- The sign of the zero that is taken away does not show. -/
theorem sub_zero {x : Binary64} (instant : x.IsInstant) : x - 0 = x := by
  have finite : (-0 : Binary64).isInfinite = false ∧ (0 : Binary64).isInfinite = false := by
    rw [zero_eq]
    exact ⟨rfl, rfl⟩
  have units : (-0 : Binary64).units = (0 : Binary64).units := by
    rw [zero_eq]
    rfl
  have same : sum x (-0) = sum x 0 := by
    simp [sum, finite.1, finite.2, units, instant.unsigned]
  calc
    x - 0 = passNaN x 0 (sum x (-0)) := rfl
    _ = x + 0 := congrArg (passNaN x 0) same
    _ = x := add_zero instant

end CoSimulation.Binary64
