import CoSimulation.Proofs.Json.Numeral

/-!
# Scaling the digits of a number

The integer that stands for the digits is rounded, the power of ten is rounded, and so is the
result.  If both are small enough to be exact, the result is rounded once and is the number
that was written.  Otherwise the result may be a neighbour of it, but it is always a number,
and it is not zero.
-/

namespace CoSimulation.Json.Numeral

open Binary64

variable {significand power : Nat} {scale : Int}

/-! ## Rounded integers -/

theorem ofDecimal_power (small : power ≤ 308) :
    Binary64.ofDecimal 1 power = Binary64.ofNat (tenTo power) := by
  have log : Nat.log2 1 = 0 := by decide
  rw [Binary64.ofDecimal, if_neg (by decide), if_neg (by omega), if_neg (by rw [log]; omega),
    if_pos (Int.natCast_nonneg _), Int.toNat_natCast, Nat.one_mul]
  rfl

theorem finite_power (small : power ≤ 308) :
    (Binary64.ofNat (tenTo power)).magnitude < infinityMagnitude := by
  obtain ⟨top, top_eq, limit⟩ : ∃ top, top = 308 ∧
      (Binary64.ofNat (tenTo top)).magnitude < infinityMagnitude :=
    ⟨308, rfl, Nat.le_of_ble_eq_true (by decide +kernel)⟩
  rw [← top_eq] at small
  rw [magnitude_ofNat] at limit ⊢
  exact Nat.lt_of_le_of_lt (nearestMagnitude_mono (Nat.mul_le_mul_right _
    (Nat.pow_le_pow_right (by decide) small))) limit

theorem unitsInOne_le_ofNat {n : Nat} (positive : 0 < n) :
    unitsInOne ≤ unitsOf (Binary64.ofNat n).magnitude := by
  have one : unitsOf (nearestMagnitude (1 * unitsInOne) 1) = unitsInOne := by decide +kernel
  rw [magnitude_ofNat]
  calc unitsInOne
      = unitsOf (nearestMagnitude (1 * unitsInOne) 1) := one.symm
    _ ≤ unitsOf (nearestMagnitude (n * unitsInOne) 1) :=
      unitsOf_mono (nearestMagnitude_mono (Nat.mul_le_mul_right _ positive))

theorem ofNat_ne_zero {n : Nat} (positive : 0 < n) : (Binary64.ofNat n).magnitude ≠ 0 := by
  intro zero
  have large := unitsInOne_le_ofNat positive
  have none : unitsOf 0 = 0 := rfl
  rw [zero, none] at large
  exact absurd Decimal.unitsInOne_pos (Nat.not_lt.2 large)

/-- An integer of at most 53 bits, up to a power of two, is not changed. -/
theorem unitsOf_ofNat_exact {n odd : Nat} (scale : Nat) (shape : n = odd * 2 ^ scale)
    (bounded : odd ≤ 2 ^ 53) (finite : n * unitsInOne < unitsOf infinityMagnitude) :
    unitsOf (Binary64.ofNat n).magnitude = n * unitsInOne := by
  obtain ⟨bits, -, one⟩ := Decimal.unitsInOne_eq_twoTo
  have units : n * unitsInOne = odd * 2 ^ (scale + bits) := by
    rw [shape, one, Nat.pow_add, ← Nat.mul_assoc]
    rfl
  rw [magnitude_ofNat, units]
  rw [units] at finite
  exact (unitsOf_nearestMagnitude bounded finite).1

/-! ## Dividing and multiplying by a power of ten -/

theorem unitsOf_power_pos (power : Nat) :
    0 < unitsOf (Binary64.ofNat (tenTo power)).magnitude :=
  Nat.lt_of_lt_of_le Decimal.unitsInOne_pos (unitsInOne_le_ofNat (Nat.pow_pos (by decide)))

theorem divide_power {x : Binary64} (instant : x.IsInstant)
    (finite : x.magnitude < infinityMagnitude) (small : power ≤ 308) :
    x / Binary64.ofDecimal 1 power =
      nearest false (unitsOf x.magnitude * unitsInOne)
        (unitsOf (Binary64.ofNat (tenTo power)).magnitude) := by
  rw [ofDecimal_power small]
  exact instant.div_eq finite (isInstant_ofNat _) (finite_power small)
    (ofNat_ne_zero (Nat.pow_pos (by decide)))

theorem divideByPower_ofNat (counts : significand ≤ countLimit) (small : power ≤ 308) :
    divideByPower (Binary64.ofNat significand) power =
      nearest false (unitsOf (Binary64.ofNat significand).magnitude * unitsInOne)
        (unitsOf (Binary64.ofNat (tenTo power)).magnitude) := by
  rw [divideByPower, if_pos small]
  exact divide_power (isInstant_ofNat _) (isFinite_ofNat counts) small

theorem multiply_ofNat (counts : significand ≤ countLimit) (small : power ≤ 308) :
    Binary64.ofNat significand * Binary64.ofDecimal 1 power =
      nearest false (unitsOf (Binary64.ofNat significand).magnitude *
        unitsOf (Binary64.ofNat (tenTo power)).magnitude) unitsInOne := by
  rw [ofDecimal_power small]
  exact (isInstant_ofNat _).mul_eq (isFinite_ofNat counts) (isInstant_ofNat _)
    (finite_power small)

theorem scaled?_of_neg (negative : scale < 0) :
    scaled? significand scale =
      some (divideByPower (Binary64.ofNat significand) scale.natAbs) := by
  rw [scaled?, if_pos negative]

theorem scaled?_of_nonneg (counts : significand ≤ countLimit) (small : power ≤ 308)
    (finite : nearestMagnitude (unitsOf (Binary64.ofNat significand).magnitude *
        unitsOf (Binary64.ofNat (tenTo power)).magnitude) unitsInOne < infinityMagnitude) :
    scaled? significand power =
      some (nearest false (unitsOf (Binary64.ofNat significand).magnitude *
        unitsOf (Binary64.ofNat (tenTo power)).magnitude) unitsInOne) := by
  have magnitude := ofParts_magnitude false (Nat.le_of_lt finite)
  have notInfinite : (nearest false (unitsOf (Binary64.ofNat significand).magnitude *
      unitsOf (Binary64.ofNat (tenTo power)).magnitude) unitsInOne).isInfinite = false := by
    rw [isInfinite, nearest, magnitude]
    exact beq_eq_false_iff_ne.2 (Nat.ne_of_lt finite)
  simp only [scaled?]
  rw [if_neg (by omega), if_neg (by omega), multiply_ofNat counts small, notInfinite]
  rfl

/-! ## Exact powers -/

/-- Powers of ten up to this one have at most 53 bits, up to a power of two. -/
def exactPower : Nat := 22

theorem unitsOf_power (small : power ≤ exactPower) :
    unitsOf (Binary64.ofNat (tenTo power)).magnitude = tenTo power * unitsInOne := by
  have five : 5 ^ power ≤ 2 ^ 53 := by
    calc 5 ^ power ≤ 5 ^ exactPower := Nat.pow_le_pow_right (by decide) small
      _ ≤ 2 ^ 53 := by decide
  have shape : tenTo power = 5 ^ power * 2 ^ power := (Nat.mul_pow 5 2 power)
  have below : tenTo exactPower * unitsInOne < unitsOf infinityMagnitude := by
    exact Nat.le_of_ble_eq_true (by decide +kernel)
  refine unitsOf_ofNat_exact power shape five (Nat.lt_of_le_of_lt ?_ below)
  exact Nat.mul_le_mul_right _ (Nat.pow_le_pow_right (by decide) small)

theorem unitsOf_significand (small : significand ≤ 2 ^ 53) :
    unitsOf (Binary64.ofNat significand).magnitude = significand * unitsInOne := by
  have below : 2 ^ 53 * unitsInOne < unitsOf infinityMagnitude := by
    exact Nat.le_of_ble_eq_true (by decide +kernel)
  exact unitsOf_ofNat_exact 0 (Nat.mul_one _).symm small
    (Nat.lt_of_le_of_lt (Nat.mul_le_mul_right _ small) below)

/-- Exact digits scaled by an exact power are rounded once. -/
theorem scaled?_exact (bounded : significand ≤ 2 ^ 53) (small : scale.natAbs ≤ exactPower)
    (finite : Decimal.nearest { digits := significand, exponent := scale } < infinityMagnitude) :
    scaled? significand scale =
      some (ofParts false (Decimal.nearest { digits := significand, exponent := scale })) := by
  have counts : significand ≤ countLimit := Nat.le_trans bounded (by decide)
  have reach : exactPower ≤ 308 := by decide
  rcases lt_or_ge scale 0 with negative | natural
  · have same : Decimal.nearest { digits := significand, exponent := scale } =
        nearestMagnitude (unitsOf (Binary64.ofNat significand).magnitude * unitsInOne)
          (unitsOf (Binary64.ofNat (tenTo scale.natAbs)).magnitude) := by
      have cut := nearestMagnitude_mul_mul (significand * unitsInOne) (tenTo scale.natAbs)
        Decimal.unitsInOne_pos
      have depth : (-scale).toNat = scale.natAbs ∧ scale.toNat = 0 := by omega
      have one : tenTo 0 = 1 := rfl
      rw [unitsOf_significand bounded, unitsOf_power small, cut, Decimal.nearest,
        Decimal.widthAt, depth.1, depth.2, one, Nat.mul_one]
    rw [scaled?_of_neg negative, divideByPower_ofNat counts (Nat.le_trans small reach), same]
    rfl
  · obtain ⟨power, rfl⟩ := Int.eq_ofNat_of_zero_le natural
    rw [Int.natAbs_natCast] at small
    have same : Decimal.nearest { digits := significand, exponent := power } =
        nearestMagnitude (unitsOf (Binary64.ofNat significand).magnitude *
          unitsOf (Binary64.ofNat (tenTo power)).magnitude) unitsInOne := by
      have cut := nearestMagnitude_mul_mul (significand * unitsInOne * tenTo power) 1
        Decimal.unitsInOne_pos
      have depth : (-(power : Int)).toNat = 0 := by omega
      have one : tenTo 0 = 1 := rfl
      rw [Nat.one_mul] at cut
      rw [unitsOf_significand bounded, unitsOf_power small, ← Nat.mul_assoc, cut,
        Decimal.nearest, Decimal.widthAt, depth, Int.toNat_natCast, one]
    rw [same] at finite ⊢
    exact scaled?_of_nonneg counts (Nat.le_trans small reach) finite

/-! ## No number is lost -/

/-- A positive number. -/
structure Positive (x : Binary64) : Prop where
  unsigned : x.negative = false
  nonzero : 0 < x.magnitude
  finite : x.magnitude < infinityMagnitude

theorem positive_nearest {numerator denominator : Nat}
    (nonzero : 0 < nearestMagnitude numerator denominator)
    (finite : nearestMagnitude numerator denominator < infinityMagnitude) :
    Positive (nearest false numerator denominator) := by
  have magnitude := ofParts_magnitude false (Nat.le_of_lt finite)
  exact ⟨rfl, by rw [nearest, magnitude]; exact nonzero, by rw [nearest, magnitude]; exact finite⟩

theorem Positive.instant {x : Binary64} (positive : Positive x) : x.IsInstant :=
  ⟨positive.unsigned, Nat.le_of_lt positive.finite⟩

theorem positive_ofNat {n : Nat} (some : 0 < n)
    (finite : (Binary64.ofNat n).magnitude < infinityMagnitude) : Positive (Binary64.ofNat n) :=
  ⟨rfl, Nat.pos_of_ne_zero (ofNat_ne_zero some), finite⟩

/-- Division by a power of ten makes no number infinite. -/
theorem Positive.quotient_finite {x : Binary64} (positive : Positive x) (power : Nat) :
    nearestMagnitude (unitsOf x.magnitude * unitsInOne)
      (unitsOf (Binary64.ofNat (tenTo power)).magnitude) < infinityMagnitude := by
  have cut := nearestMagnitude_mul_mul (unitsOf x.magnitude) 1 Decimal.unitsInOne_pos
  rw [Nat.one_mul] at cut
  calc nearestMagnitude (unitsOf x.magnitude * unitsInOne)
        (unitsOf (Binary64.ofNat (tenTo power)).magnitude)
      ≤ nearestMagnitude (unitsOf x.magnitude * unitsInOne) unitsInOne :=
        nearestMagnitude_anti Decimal.unitsInOne_pos
          (unitsInOne_le_ofNat (Nat.pow_pos (by decide)))
    _ = x.magnitude := cut.trans (nearestMagnitude_unitsOf (Nat.le_of_lt positive.finite))
    _ < infinityMagnitude := positive.finite

theorem divide_power_ofNat (some : 0 < significand) (counts : significand ≤ countLimit)
    (small : power ≤ 308) :
    Positive (Binary64.ofNat significand / Binary64.ofDecimal 1 power) := by
  have positive := positive_ofNat some (isFinite_ofNat counts)
  have large : unitsOf infinityMagnitude ≤ unitsInOne * unitsInOne :=
    Nat.le_of_ble_eq_true (by decide +kernel)
  have divisor : unitsOf (Binary64.ofNat (tenTo power)).magnitude ≤
      unitsOf (Binary64.ofNat significand).magnitude * unitsInOne := by
    calc unitsOf (Binary64.ofNat (tenTo power)).magnitude
        ≤ unitsOf infinityMagnitude := unitsOf_mono (Nat.le_of_lt (finite_power small))
      _ ≤ unitsInOne * unitsInOne := large
      _ ≤ unitsOf (Binary64.ofNat significand).magnitude * unitsInOne :=
          Nat.mul_le_mul_right _ (unitsInOne_le_ofNat some)
  rw [divide_power positive.instant positive.finite small]
  exact positive_nearest (nearestMagnitude_pos (unitsOf_power_pos power) divisor)
    (positive.quotient_finite power)

/-- An integer loses at most half a step, which is a small part of it. -/
theorem mul_le_unitsOf_ofNat (some : 0 < significand) (counts : significand ≤ countLimit) :
    significand * unitsInOne * 2 ^ 53 ≤
      unitsOf (Binary64.ofNat significand).magnitude * (2 ^ 53 + 1) := by
  have finite := isFinite_ofNat counts
  have large := unitsInOne_le_ofNat some
  have normal : 2 ^ 52 ≤ unitsInOne := Nat.le_of_ble_eq_true (by decide +kernel)
  rw [magnitude_ofNat] at finite large ⊢
  have half := half_step_down Nat.one_pos (Nat.le_of_eq (uncut_of_finite finite))
  generalize nearestMagnitude (significand * unitsInOne) 1 = magnitude at *
  have step := unitsOf_succ magnitude
  have share : 2 ^ 52 * 2 ^ (magnitude / 2 ^ 52 - 1) ≤ unitsOf magnitude := by
    rw [unitsOf_eq] at large ⊢
    split at large
    · omega
    · rw [if_neg (by assumption)]
      exact Nat.mul_le_mul_right _ (Nat.le_add_right _ _)
  omega

theorem unitsOf_ofNat_mul_le (n : Nat) :
    unitsOf (Binary64.ofNat n).magnitude * 2 ^ 53 ≤ n * unitsInOne * (2 ^ 53 + 1) := by
  have bound := unitsOf_nearest_le (n * unitsInOne)
  rw [magnitude_ofNat]
  generalize n * unitsInOne = count at *
  omega

/-- Two roundings of a quotient do not bring it from three halves of a unit to half of one. -/
theorem half_lt_of_rounded {count rounded power divisor quotient further : Nat}
    (positive : 0 < power * unitsInOne) (ten : 10 ≤ further)
    (large : 3 * (power * further) ≤ 2 * count)
    (numerator : count * 2 ^ 53 ≤ rounded * (2 ^ 53 + 1))
    (denominator : divisor * 2 ^ 53 ≤ power * unitsInOne * (2 ^ 53 + 1))
    (divided : 2 * (rounded * unitsInOne) ≤ (2 * quotient + 1) * divisor) :
    further < 2 * quotient := by
  by_contra small
  have bounded : power * unitsInOne * (3 * further * 2 ^ 106) ≤
      power * unitsInOne * ((further + 1) * (2 ^ 53 + 1) ^ 2) := by
    calc power * unitsInOne * (3 * further * 2 ^ 106)
        = 3 * (power * further) * (unitsInOne * 2 ^ 106) := by ring
      _ ≤ 2 * count * (unitsInOne * 2 ^ 106) := Nat.mul_le_mul_right _ large
      _ = count * 2 ^ 53 * (2 * unitsInOne * 2 ^ 53) := by ring
      _ ≤ rounded * (2 ^ 53 + 1) * (2 * unitsInOne * 2 ^ 53) := Nat.mul_le_mul_right _ numerator
      _ = 2 * (rounded * unitsInOne) * (2 ^ 53 * (2 ^ 53 + 1)) := by ring
      _ ≤ (2 * quotient + 1) * divisor * (2 ^ 53 * (2 ^ 53 + 1)) :=
          Nat.mul_le_mul_right _ divided
      _ ≤ (further + 1) * divisor * (2 ^ 53 * (2 ^ 53 + 1)) :=
          Nat.mul_le_mul_right _ (Nat.mul_le_mul_right _ (by omega))
      _ = divisor * 2 ^ 53 * ((further + 1) * (2 ^ 53 + 1)) := by ring
      _ ≤ power * unitsInOne * (2 ^ 53 + 1) * ((further + 1) * (2 ^ 53 + 1)) :=
          Nat.mul_le_mul_right _ denominator
      _ = power * unitsInOne * ((further + 1) * (2 ^ 53 + 1) ^ 2) := by ring
  have cancelled := Nat.le_of_mul_le_mul_left bounded positive
  omega

theorem divide_exact_power {x : Binary64} (positive : Positive x) (small : power ≤ exactPower)
    (enough : tenTo power < 2 * unitsOf x.magnitude) :
    Positive (x / Binary64.ofDecimal 1 power) := by
  have reach : power ≤ 308 := Nat.le_trans small (by decide)
  have finite := positive.quotient_finite power
  have cut := nearestMagnitude_mul_mul (unitsOf x.magnitude) (tenTo power)
    Decimal.unitsInOne_pos
  rw [divide_power positive.instant positive.finite reach]
  refine positive_nearest ?_ finite
  rw [unitsOf_power small, cut] at finite ⊢
  have some : 0 < tenTo power := Nat.pow_pos (by decide)
  refine Nat.pos_of_ne_zero fun lost => ?_
  have half := half_step_down some (Nat.le_of_eq ((uncut_of_finite finite).trans lost))
  have units : unitsOf 0 = 0 ∧ unitsOf (0 + 1) = 1 := ⟨rfl, rfl⟩
  rw [units.1, units.2] at half
  omega

theorem lt_unitsOf_quotient (power further : Nat) (some : 0 < significand)
    (counts : significand ≤ countLimit) (small : power ≤ 308) (ten : 10 ≤ further)
    (few : further < 2 ^ 54)
    (large : 3 * (tenTo power * further) ≤ 2 * (significand * unitsInOne)) :
    further < 2 * unitsOf (Binary64.ofNat significand / Binary64.ofDecimal 1 power).magnitude := by
  have positive := positive_ofNat some (isFinite_ofNat counts)
  have quotient := divide_power positive.instant positive.finite small
  have finite := positive.quotient_finite power
  have half := half_step_down (unitsOf_power_pos power)
    (Nat.le_of_eq (uncut_of_finite finite))
  have magnitude : (Binary64.ofNat significand / Binary64.ofDecimal 1 power).magnitude = _ :=
    (congrArg Binary64.magnitude quotient).trans
      (ofParts_magnitude false (Nat.le_of_lt finite))
  rw [← magnitude] at half
  generalize (Binary64.ofNat significand / Binary64.ofDecimal 1 power).magnitude = result at *
  by_contra lost
  have short : result < 2 ^ 53 := by
    have top : unitsOf (2 ^ 53) = 2 ^ 53 := by decide +kernel
    rw [← unitsOf_strictMono.lt_iff_lt, top]
    omega
  have fine : result / 2 ^ 52 - 1 = 0 := by omega
  have step := unitsOf_succ result
  rw [fine, Nat.pow_zero] at step
  rw [step, ← Nat.add_assoc, ← Nat.two_mul] at half
  exact lost (half_lt_of_rounded
    (Nat.mul_pos (Nat.pow_pos (by decide)) Decimal.unitsInOne_pos) ten large
    (mul_le_unitsOf_ofNat some counts) (unitsOf_ofNat_mul_le (tenTo power))
    (Nat.le_trans (Nat.le_add_right _ _) half))

/-- The spelling of a magnitude, as it is read. -/
structure Spells (significand : Nat) (scale : Int) (magnitude : Nat) : Prop where
  nonzero : 0 < significand
  counts : significand ≤ countLimit
  lowest : -324 ≤ scale
  nearest : Decimal.nearest { digits := significand, exponent := scale } = magnitude

/-- More than a unit is at least three halves of one before it is rounded. -/
theorem Spells.large {magnitude : Nat} (spells : Spells significand scale magnitude)
    (negative : scale < 0) (several : 2 ≤ magnitude) (finite : magnitude < infinityMagnitude) :
    3 * tenTo scale.natAbs ≤ 2 * (significand * unitsInOne) := by
  have depth : (-scale).toNat = scale.natAbs ∧ scale.toNat = 0 := by omega
  have one : tenTo 0 = 1 := rfl
  have nearest : nearestMagnitude (significand * unitsInOne) (tenTo scale.natAbs) =
      magnitude := by
    have spelled := spells.nearest
    rwa [Decimal.nearest, Decimal.widthAt, depth.1, depth.2, one, Nat.mul_one] at spelled
  have positive : 0 < tenTo scale.natAbs := Nat.pow_pos (by decide)
  have reached : 1 + 1 ≤ uncut (significand * unitsInOne) (tenTo scale.natAbs) := by
    rw [uncut_of_finite (nearest.trans_lt finite), nearest]
    exact several
  have half := half_step_up positive reached
  have units : unitsOf (1 + 1) + unitsOf 1 = 3 := rfl
  generalize significand * unitsInOne = count at *
  rw [units] at half
  exact Nat.le_trans (Nat.le_add_right _ _) half

theorem divideByPower_deep {further : Nat} (nonzero : 0 < significand) (some : 0 < further)
    (small : further ≤ 308) :
    divideByPower (Binary64.ofNat significand) (308 + further) =
      Binary64.ofNat significand / Binary64.ofDecimal 1 308 / Binary64.ofDecimal 1 further := by
  have notZero : ¬ (Binary64.ofNat significand).isZero = true := by
    rw [isZero, beq_iff_eq]
    exact ofNat_ne_zero nonzero
  rw [divideByPower, if_neg (by omega), if_neg notZero, Nat.add_sub_cancel_left, divideByPower,
    if_pos small]

theorem Spells.divided {magnitude : Nat} (spells : Spells significand scale magnitude)
    (negative : scale < 0) (several : 2 ≤ magnitude) (finite : magnitude < infinityMagnitude) :
    ∃ x, scaled? significand scale = some x ∧ Positive x := by
  refine ⟨_, scaled?_of_neg negative, ?_⟩
  have lowest := spells.lowest
  rcases le_or_gt scale.natAbs 308 with small | deep
  · rw [divideByPower, if_pos small]
    exact divide_power_ofNat spells.nonzero spells.counts small
  · obtain ⟨further, depth⟩ : ∃ further, scale.natAbs = 308 + further :=
      ⟨scale.natAbs - 308, by omega⟩
    have large := spells.large negative several finite
    rw [depth, Decimal.tenTo_add] at large
    rw [depth, divideByPower_deep spells.nonzero (by omega) (by omega)]
    have first := divide_power_ofNat spells.nonzero spells.counts (Nat.le_refl 308)
    refine divide_exact_power first (by simp only [exactPower]; omega) ?_
    have limit : tenTo further ≤ 10 ^ 16 := Nat.pow_le_pow_right (by decide) (by omega)
    have ten : 10 ^ 1 ≤ tenTo further := Nat.pow_le_pow_right (by decide) (by omega)
    exact lt_unitsOf_quotient 308 (tenTo further) spells.nonzero spells.counts (Nat.le_refl 308)
      ten (by omega) large

theorem Spells.whole {magnitude : Nat} (spells : Spells significand power magnitude) :
    nearestMagnitude (significand * unitsInOne * tenTo power) 1 = magnitude := by
  have depth : (-(power : Int)).toNat = 0 := by omega
  have one : tenTo 0 = 1 := rfl
  have spelled := spells.nearest
  rwa [Decimal.nearest, Decimal.widthAt, depth, Int.toNat_natCast, one] at spelled

theorem Spells.power_le {magnitude : Nat} (spells : Spells significand power magnitude)
    (finite : magnitude < infinityMagnitude) : power ≤ 308 := by
  by_contra beyond
  obtain ⟨limit, limit_eq, infinite⟩ : ∃ limit, limit = 309 ∧
      infinityMagnitude ≤ nearestMagnitude (unitsInOne * tenTo limit) 1 :=
    ⟨309, rfl, Nat.le_of_ble_eq_true (by decide +kernel)⟩
  refine Nat.not_lt.2 ?_ finite
  calc infinityMagnitude
      ≤ nearestMagnitude (unitsInOne * tenTo limit) 1 := infinite
    _ ≤ nearestMagnitude (significand * unitsInOne * tenTo power) 1 :=
        nearestMagnitude_mono (Nat.mul_le_mul (Nat.le_mul_of_pos_left _ spells.nonzero)
          (Nat.pow_le_pow_right (by decide) (by omega)))
    _ = magnitude := spells.whole

/-- The last magnitude that two roundings cannot make infinite. -/
def safeMagnitude : Nat := infinityMagnitude - 4

/-- Two roundings of a product add at most two parts in `2 ^ 53`. -/
theorem product_lt_of_rounded {count rounded power factor room limit : Nat}
    (positive : 0 < unitsInOne) (bounded : 2 * (count * power) ≤ room)
    (first : rounded * 2 ^ 53 ≤ count * (2 ^ 53 + 1))
    (second : factor * 2 ^ 53 ≤ power * unitsInOne * (2 ^ 53 + 1))
    (less : room * (2 ^ 53 + 1) ^ 2 < 2 ^ 106 * limit) :
    2 * (rounded * factor) < limit * unitsInOne := by
  refine Nat.lt_of_mul_lt_mul_left (a := 2 ^ 106) ?_
  calc 2 ^ 106 * (2 * (rounded * factor))
      = 2 * (rounded * 2 ^ 53 * (factor * 2 ^ 53)) := by ring
    _ ≤ 2 * (count * (2 ^ 53 + 1) * (power * unitsInOne * (2 ^ 53 + 1))) :=
        Nat.mul_le_mul_left _ (Nat.mul_le_mul first second)
    _ = 2 * (count * power) * ((2 ^ 53 + 1) ^ 2 * unitsInOne) := by ring
    _ ≤ room * ((2 ^ 53 + 1) ^ 2 * unitsInOne) := Nat.mul_le_mul_right _ bounded
    _ = room * (2 ^ 53 + 1) ^ 2 * unitsInOne := (Nat.mul_assoc ..).symm
    _ < 2 ^ 106 * limit * unitsInOne := Nat.mul_lt_mul_of_pos_right less positive
    _ = 2 ^ 106 * (limit * unitsInOne) := Nat.mul_assoc ..

theorem Spells.finite_product {magnitude : Nat} (spells : Spells significand power magnitude)
    (safe : magnitude ≤ safeMagnitude) :
    nearestMagnitude (unitsOf (Binary64.ofNat significand).magnitude *
      unitsOf (Binary64.ofNat (tenTo power)).magnitude) unitsInOne < infinityMagnitude := by
  have finite : magnitude < infinityMagnitude := Nat.lt_of_le_of_lt safe (by decide)
  have half := half_step_down Nat.one_pos
    (Nat.le_of_eq ((uncut_of_finite (spells.whole.trans_lt finite)).trans spells.whole))
  have room : (unitsOf safeMagnitude + unitsOf (safeMagnitude + 1)) * (2 ^ 53 + 1) ^ 2 <
      2 ^ 106 * (unitsOf (infinityMagnitude - 1 + 1) + unitsOf (infinityMagnitude - 1)) :=
    Nat.le_of_ble_eq_true (by decide +kernel)
  have bounded : 2 * (significand * unitsInOne * tenTo power) ≤
      unitsOf safeMagnitude + unitsOf (safeMagnitude + 1) := by
    have first := unitsOf_mono safe
    have second := unitsOf_mono (Nat.add_le_add_right safe 1)
    rw [Nat.mul_one] at half
    exact Nat.le_trans (Nat.le_trans (Nat.le_add_right _ _) half) (Nat.add_le_add first second)
  have less := product_lt_of_rounded Decimal.unitsInOne_pos bounded
    (unitsOf_ofNat_mul_le significand) (unitsOf_ofNat_mul_le (tenTo power)) room
  by_contra infinite
  have reached : infinityMagnitude - 1 + 1 ≤ uncut
      (unitsOf (Binary64.ofNat significand).magnitude *
        unitsOf (Binary64.ofNat (tenTo power)).magnitude) unitsInOne :=
    Nat.le_trans (Nat.not_lt.1 infinite) (Nat.min_le_left _ _)
  have more := half_step_up Decimal.unitsInOne_pos reached
  exact Nat.not_le.2 less (Nat.le_trans (Nat.le_add_right _ _) more)

theorem scaled?_positive (nonzero : 0 < significand) (counts : significand ≤ countLimit)
    (small : power ≤ 308)
    (finite : nearestMagnitude (unitsOf (Binary64.ofNat significand).magnitude *
      unitsOf (Binary64.ofNat (tenTo power)).magnitude) unitsInOne < infinityMagnitude) :
    ∃ x, scaled? significand power = some x ∧ Positive x := by
  refine ⟨_, scaled?_of_nonneg counts small finite, positive_nearest ?_ finite⟩
  refine nearestMagnitude_pos Decimal.unitsInOne_pos ?_
  calc unitsInOne
      ≤ unitsOf (Binary64.ofNat significand).magnitude := unitsInOne_le_ofNat nonzero
    _ ≤ unitsOf (Binary64.ofNat significand).magnitude *
          unitsOf (Binary64.ofNat (tenTo power)).magnitude :=
        Nat.le_mul_of_pos_right _ (unitsOf_power_pos power)

theorem Spells.multiplied {magnitude : Nat} (spells : Spells significand power magnitude)
    (safe : magnitude ≤ safeMagnitude) :
    ∃ x, scaled? significand power = some x ∧ Positive x := by
  have small := spells.power_le (Nat.lt_of_le_of_lt safe (by decide))
  have below := spells.finite_product safe
  exact scaled?_positive spells.nonzero spells.counts small below

/-! ## What comes back -/

section Back

variable {magnitude : Nat} {number : Decimal} {x : Binary64}

theorem nearest_parts (number : Decimal) :
    Decimal.nearest { digits := (parts number).1, exponent := (parts number).2 } =
      number.nearest := by
  rw [parts]
  split_ifs with whole
  · have natural := whole.1
    have same : (-1 : Int) + (number.exponent.toNat + 1 : Nat) = number.exponent := by omega
    exact (Decimal.nearest_shift_by number.digits (-1) (number.exponent.toNat + 1)).trans
      (by rw [same])
  · rfl

theorem spells_parts (spec : Decimal.Shortest magnitude number) :
    Spells (parts number).1 (parts number).2 magnitude := by
  refine ⟨?_, ?_, ?_, (nearest_parts number).trans spec.nearest⟩ <;> rw [parts]
  · split_ifs
    · exact Nat.mul_pos spec.positive (Nat.pow_pos (by decide))
    · exact spec.positive
  · split_ifs with whole
    · exact filled_counts spec whole.1 whole.2
    · exact spec.few
  · split_ifs
    · exact (by decide : (-324 : Int) ≤ -1)
    · exact spec.lowest

theorem scaled?_least : ∃ y, scaled? (parts (Decimal.shortest .toEven 1)).1
    (parts (Decimal.shortest .toEven 1)).2 = some y ∧ Positive y := by
  have spelled : parts (Decimal.shortest .toEven 1) = (5, -324) := by decide +kernel
  have first : Positive (Binary64.ofNat 5 / Binary64.ofDecimal 1 308) :=
    divide_power_ofNat (by decide) (by decide) (Nat.le_refl 308)
  rw [spelled]
  refine ⟨_, scaled?_of_neg (by decide), ?_⟩
  have deep : divideByPower (Binary64.ofNat 5) (308 + 16) = _ :=
    divideByPower_deep (by decide) (by decide) (by decide)
  change Positive (divideByPower (Binary64.ofNat 5) (308 + 16))
  rw [deep]
  exact divide_exact_power first (by decide) (by decide +kernel)

theorem scaled?_last (significand power : Nat)
    (spelled : parts number = (significand, (power : Int))) (nonzero : 0 < significand)
    (counts : significand ≤ countLimit) (small : power ≤ 308)
    (finite : nearestMagnitude (unitsOf (Binary64.ofNat significand).magnitude *
      unitsOf (Binary64.ofNat (tenTo power)).magnitude) unitsInOne < infinityMagnitude) :
    ∃ y, scaled? (parts number).1 (parts number).2 = some y ∧ Positive y := by
  rw [spelled]
  exact scaled?_positive nonzero counts small finite

/-- Every positive number is read back as one. -/
theorem scaled?_parts (nonzero : 0 < magnitude) (finite : magnitude < infinityMagnitude) :
    ∃ y, scaled? (parts (Decimal.shortest .toEven magnitude)).1
      (parts (Decimal.shortest .toEven magnitude)).2 = some y ∧ Positive y := by
  have spells : Spells (parts (Decimal.shortest .toEven magnitude)).1
      (parts (Decimal.shortest .toEven magnitude)).2 magnitude := by
    obtain ⟨lower, rfl⟩ : ∃ lower, magnitude = lower + 1 := ⟨magnitude - 1, by omega⟩
    exact spells_parts (Decimal.shortest_spec .toEven finite)
  by_cases least : magnitude = 1
  · rw [least]
    exact scaled?_least
  · rcases lt_or_ge (parts (Decimal.shortest .toEven magnitude)).2 0 with negative | natural
    · exact spells.divided negative (by omega) finite
    · rcases le_or_gt magnitude safeMagnitude with safe | last
      · obtain ⟨power, scale⟩ := Int.eq_ofNat_of_zero_le natural
        rw [scale] at spells ⊢
        exact spells.multiplied safe
      · -- the bound of two roundings says nothing about the last three numbers
        have few : magnitude = infinityMagnitude - 1 ∨ magnitude = infinityMagnitude - 2 ∨
            magnitude = infinityMagnitude - 3 := by
          simp only [safeMagnitude] at last
          omega
        rcases few with rfl | rfl | rfl
        · exact scaled?_last 17976931348623157 292 (by decide +kernel) (by decide) (by decide)
            (by decide) (by decide +kernel)
        · exact scaled?_last 17976931348623155 292 (by decide +kernel) (by decide) (by decide)
            (by decide) (by decide +kernel)
        · exact scaled?_last 17976931348623153 292 (by decide +kernel) (by decide) (by decide)
            (by decide) (by decide +kernel)

theorem signed_ofParts (x : Binary64) :
    (if x.negative then -(ofParts false x.magnitude) else ofParts false x.magnitude) = x := by
  obtain ⟨negative, magnitude, small⟩ := x
  have kept : magnitude % twoTo 63 = magnitude := Nat.mod_eq_of_lt small
  cases negative <;> simp [ofParts, Neg.neg, neg, kept]

/-- A number as it is read back: with its sign, and zero only if it was. -/
structure Resembles (x y : Binary64) : Prop where
  sign : y.negative = x.negative
  zero : y.magnitude = 0 ↔ x.magnitude = 0
  written : x.magnitude < infinityMagnitude
  back : y.magnitude < infinityMagnitude

namespace Resembles

variable {y : Binary64}

theorem position_sign (resembles : Resembles x y) : (0 < y.position ↔ 0 < x.position) ∧
    (0 ≤ y.position ↔ 0 ≤ x.position) := by
  have zero := resembles.zero
  rw [position, position, resembles.sign]
  cases x.negative <;> simp only [Bool.false_eq_true, if_true, if_false] <;> omega

theorem isNaN_eq (resembles : Resembles x y) : x.isNaN = false ∧ y.isNaN = false :=
  ⟨decide_eq_false (Nat.not_lt.2 (Nat.le_of_lt resembles.written)),
    decide_eq_false (Nat.not_lt.2 (Nat.le_of_lt resembles.back))⟩

theorem pos_iff (resembles : Resembles x y) : 0 < y ↔ 0 < x := by
  obtain ⟨left, right⟩ := resembles.isNaN_eq
  rw [Binary64.lt_iff, Binary64.lt_iff, position_zero, resembles.position_sign.1, left, right]

theorem nonneg_iff (resembles : Resembles x y) : 0 ≤ y ↔ 0 ≤ x := by
  obtain ⟨left, right⟩ := resembles.isNaN_eq
  rw [Binary64.le_iff, Binary64.le_iff, position_zero, resembles.position_sign.2, left, right]

end Resembles

theorem reread?_of_finite (finite : x.isFinite = true) :
    ∃ y, reread? x = some y ∧ Resembles x y := by
  have below : x.magnitude < infinityMagnitude := of_decide_eq_true finite
  rw [reread?, if_pos finite]
  by_cases zero : x.isZero = true
  · rw [if_pos zero]
    exact ⟨x, rfl, rfl, Iff.rfl, below, below⟩
  · have nonzero : x.magnitude ≠ 0 := fun none => zero (beq_iff_eq.2 none)
    obtain ⟨y, scaled, positive⟩ := scaled?_parts (Nat.pos_of_ne_zero nonzero) below
    rw [if_neg zero, scaled]
    refine ⟨_, rfl, ?_⟩
    have some := Nat.ne_of_gt positive.nonzero
    cases sign : x.negative
    · exact ⟨positive.unsigned.trans sign.symm, iff_of_false some nonzero, below,
        positive.finite⟩
    · have negated : (!y.negative) = true := by rw [positive.unsigned]; rfl
      exact ⟨negated.trans sign.symm, iff_of_false some nonzero, below, positive.finite⟩

theorem reread?_of_infinite (infinite : x.isFinite = false) : reread? x = none := by
  rw [reread?, if_neg (by rw [infinite]; exact Bool.false_ne_true)]

theorem exists_reread?_iff : (∃ y, reread? x = some y) ↔ x.isFinite = true := by
  constructor
  · rintro ⟨y, back⟩
    cases finite : x.isFinite with
    | true => rfl
    | false => exact absurd ((reread?_of_infinite finite).symm.trans back) nofun
  · intro finite
    obtain ⟨y, back, -⟩ := reread?_of_finite finite
    exact ⟨y, back⟩

theorem resembles_of_reread? {y : Binary64} (back : reread? x = some y) : Resembles x y := by
  obtain ⟨other, same, resembles⟩ := reread?_of_finite (exists_reread?_iff.1 ⟨y, back⟩)
  obtain rfl := Option.some.inj (back.symm.trans same)
  exact resembles

/-- The digits that are read and the power of ten that scales them are both exact. -/
def Exact (x : Binary64) : Prop :=
  (parts (Decimal.shortest .toEven x.magnitude)).1 ≤ 2 ^ 53 ∧
    (parts (Decimal.shortest .toEven x.magnitude)).2.natAbs ≤ exactPower

instance (x : Binary64) : Decidable (Exact x) := inferInstanceAs (Decidable (_ ∧ _))

theorem reread?_of_exact (finite : x.isFinite = true) (short : Exact x) :
    reread? x = some x := by
  have below : x.magnitude < infinityMagnitude := of_decide_eq_true finite
  rw [reread?, if_pos finite]
  by_cases zero : x.isZero = true
  · rw [if_pos zero]
  · have spec := shortest_nonzero finite zero
    have nearest := (nearest_parts _).trans spec.nearest
    have scaled := scaled?_exact short.1 short.2 (nearest.trans_lt below)
    rw [if_neg zero, scaled, nearest, Option.map_some, signed_ofParts]

end Back

end CoSimulation.Json.Numeral
