import CoSimulation.Proofs.Binary64.Instant
import CoSimulation.Time
import Mathlib.Data.Nat.Find

/-!
# Laws of the two clocks

Both ways between the clocks keep instants and their order, and so does adding a delay.
Waiting for an instant is less exact: the wait is rounded and so is the time at which it
ends, but that time is at most one step beyond the instant.
-/

namespace CoSimulation

namespace Binary64

variable {x y factor : Binary64}

theorem rank_ofParts {magnitude : Nat} (bounded : magnitude ≤ infinityMagnitude) :
    (ofParts false magnitude).rank = magnitude := by
  rw [(isInstant_ofParts bounded).rank_eq, ofParts_magnitude false bounded]

theorem IsInstant.rank_le_infinity (instant : IsInstant x) :
    x.rank ≤ (infinityMagnitude : Int) := by
  rw [instant.rank_eq]
  exact Int.ofNat_le.2 instant.numeric

theorem IsInstant.magnitude_le (left : IsInstant x) (right : IsInstant y)
    (le : x.rank ≤ y.rank) : x.magnitude ≤ y.magnitude := by
  rw [left.rank_eq, right.rank_eq] at le
  exact Int.ofNat_le.1 le

/-- The same delay leads from a later instant to one that is not earlier. -/
theorem rank_add_mono_left {delay : Binary64} (left : IsInstant x) (right : IsInstant y)
    (nonneg : 0 ≤ delay) (le : x.rank ≤ y.rank) : (x + delay).rank ≤ (y + delay).rank := by
  rw [rank_add left nonneg, rank_add right nonneg, Int.ofNat_le]
  apply nearestMagnitude_mono
  exact Nat.add_le_add_right (unitsOf_mono (left.magnitude_le right le)) _

/-! ## Scaling -/

/-- A finite number above zero. -/
structure IsScale (factor : Binary64) : Prop where
  instant : factor.IsInstant
  finite : factor.isInfinite = false
  nonzero : factor.isZero = false

/-- The magnitude of an instant that is scaled by a fraction. -/
def scaled (numerator denominator : Nat) (x : Binary64) : Nat :=
  if x.isInfinite then infinityMagnitude
  else nearestMagnitude (unitsOf x.magnitude * numerator) denominator

theorem scaled_le_infinity (numerator denominator : Nat) (x : Binary64) :
    scaled numerator denominator x ≤ infinityMagnitude := by
  rw [scaled]
  split
  · exact Nat.le_refl _
  · exact nearestMagnitude_le _ _

theorem scaled_mono {numerator denominator : Nat} (left : IsInstant x) (right : IsInstant y)
    (le : x.rank ≤ y.rank) : scaled numerator denominator x ≤ scaled numerator denominator y := by
  have magnitudes := left.magnitude_le right le
  by_cases infinite : y.isInfinite = true
  · rw [scaled, scaled, if_pos infinite]
    exact scaled_le_infinity numerator denominator x
  · have finite : ¬ x.isInfinite = true := by
      have bounded := right.numeric
      simp only [isInfinite, beq_iff_eq] at infinite ⊢
      omega
    rw [scaled, scaled, if_neg infinite, if_neg finite]
    apply nearestMagnitude_mono
    exact Nat.mul_le_mul_right _ (unitsOf_mono magnitudes)

theorem IsScale.mul_eq (scale : IsScale factor) (instant : IsInstant x) :
    x * factor = ofParts false (scaled (unitsOf factor.magnitude) unitsInOne x) := by
  change passNaN x factor (product x factor) = _
  by_cases infinite : x.isInfinite = true
  · have nonzero : x.isZero = false := by
      simp only [isInfinite, isZero, beq_iff_eq] at infinite ⊢
      rw [infinite]
      decide
    simp [passNaN, product, scaled, infinite, nonzero, instant.isNaN_eq,
      scale.instant.isNaN_eq, scale.nonzero, instant.unsigned, scale.instant.unsigned]
  · simp [passNaN, product, scaled, infinite, instant.isNaN_eq, nearest,
      scale.instant.isNaN_eq, scale.finite, instant.unsigned, scale.instant.unsigned]

theorem IsScale.div_eq (scale : IsScale factor) (instant : IsInstant x) :
    x / factor = ofParts false (scaled unitsInOne (unitsOf factor.magnitude) x) := by
  change passNaN x factor (quotient x factor) = _
  by_cases infinite : x.isInfinite = true
  · simp [passNaN, quotient, scaled, infinite, instant.isNaN_eq, scale.finite,
      scale.instant.isNaN_eq, instant.unsigned, scale.instant.unsigned]
  · simp [passNaN, quotient, scaled, infinite, instant.isNaN_eq, nearest, scale.nonzero,
      scale.instant.isNaN_eq, scale.finite, instant.unsigned, scale.instant.unsigned]

/-! ## Waiting for an instant -/

/-- From one magnitude to the next there is a step that depends on the binade. -/
theorem unitsOf_succ (magnitude : Nat) :
    unitsOf (magnitude + 1) = unitsOf magnitude + 2 ^ (magnitude / 2 ^ 52 - 1) := by
  have split := Nat.div_add_mod magnitude (2 ^ 52)
  have fraction : magnitude % 2 ^ 52 < 2 ^ 52 := Nat.mod_lt _ (by decide)
  by_cases small : magnitude < 2 ^ 52
  · have none : magnitude / 2 ^ 52 = 0 := Nat.div_eq_of_lt small
    rw [unitsOf_eq magnitude, if_pos small, none, unitsOf_eq]
    by_cases last : magnitude + 1 < 2 ^ 52
    · rw [if_pos last]
      rfl
    · have full : magnitude = 2 ^ 52 - 1 := by omega
      rw [full]
      decide +kernel
  · obtain ⟨binade, exponent⟩ : ∃ binade, magnitude / 2 ^ 52 = binade + 1 :=
      ⟨magnitude / 2 ^ 52 - 1, by omega⟩
    have next : ¬ magnitude + 1 < 2 ^ 52 := by omega
    rw [unitsOf_eq magnitude, if_neg small, unitsOf_eq, if_neg next]
    by_cases last : magnitude % 2 ^ 52 + 1 < 2 ^ 52
    · have quotient : (magnitude + 1) / 2 ^ 52 = magnitude / 2 ^ 52 := by omega
      have remainder : (magnitude + 1) % 2 ^ 52 = magnitude % 2 ^ 52 + 1 := by omega
      rw [quotient, remainder]
      ring
    · -- the next binade begins, whose steps are twice as long
      have quotient : (magnitude + 1) / 2 ^ 52 = binade + 2 := by omega
      have remainder : (magnitude + 1) % 2 ^ 52 = 0 := by omega
      have full : magnitude % 2 ^ 52 = 2 ^ 52 - 1 := by omega
      have power : binade + 2 - 1 = binade + 1 := rfl
      rw [quotient, remainder, exponent, full, power, Nat.add_sub_cancel, Nat.pow_succ]
      omega

theorem unitsOf_lt_succ (magnitude : Nat) : unitsOf magnitude < unitsOf (magnitude + 1) := by
  rw [unitsOf_succ]
  exact Nat.lt_add_of_pos_right (Nat.two_pow_pos _)

/-- Steps do not get shorter. -/
theorem unitsOf_step_mono {lower magnitude : Nat} (le : lower ≤ magnitude) :
    unitsOf (lower + 1) + unitsOf magnitude ≤ unitsOf lower + unitsOf (magnitude + 1) := by
  rw [unitsOf_succ, unitsOf_succ]
  have exponents : lower / 2 ^ 52 - 1 ≤ magnitude / 2 ^ 52 - 1 :=
    Nat.sub_le_sub_right (Nat.div_le_div_right le) 1
  have steps : 2 ^ (lower / 2 ^ 52 - 1) ≤ 2 ^ (magnitude / 2 ^ 52 - 1) :=
    Nat.pow_le_pow_right (by decide) exponents
  omega

/-- Rounding adds at most the step at a larger magnitude. -/
theorem unitsOf_nearestMagnitude_le {count magnitude : Nat} (below : count ≤ unitsOf magnitude)
    (bounded : magnitude < infinityMagnitude) :
    unitsOf (nearestMagnitude count 1) + unitsOf magnitude ≤ count + unitsOf (magnitude + 1) := by
  -- the largest magnitude that is not above the count
  let lower := Nat.findGreatest (fun candidate => unitsOf candidate ≤ count) magnitude
  have le : lower ≤ magnitude := Nat.findGreatest_le magnitude
  have reached : unitsOf lower ≤ count := by
    have zero : unitsOf 0 ≤ count := Nat.zero_le count
    exact Nat.findGreatest_spec (P := fun candidate => unitsOf candidate ≤ count)
      (Nat.zero_le magnitude) zero
  have above : count ≤ unitsOf (lower + 1) := by
    by_cases last : lower = magnitude
    · rw [last]
      exact Nat.le_trans below (Nat.le_of_lt (unitsOf_lt_succ magnitude))
    · have missed := Nat.findGreatest_is_greatest (Nat.lt_succ_self lower)
        (show lower + 1 ≤ magnitude by omega)
      exact Nat.le_of_not_le missed
  have rounded : nearestMagnitude count 1 ≤ lower + 1 := by
    calc
      nearestMagnitude count 1 ≤ nearestMagnitude (unitsOf (lower + 1)) 1 :=
        nearestMagnitude_mono above
      _ = lower + 1 := nearestMagnitude_unitsOf (by omega)
  calc
    unitsOf (nearestMagnitude count 1) + unitsOf magnitude
      ≤ unitsOf (lower + 1) + unitsOf magnitude :=
        Nat.add_le_add_right (unitsOf_mono rounded) _
    _ ≤ unitsOf lower + unitsOf (magnitude + 1) := unitsOf_step_mono le
    _ ≤ count + unitsOf (magnitude + 1) := Nat.add_le_add_right reached _

theorem magnitude_max_zero {wait : Binary64} (notPositive : ¬ 0 < wait) :
    (wait.max 0).magnitude = 0 := by
  have zero : (0 : Binary64).magnitude = 0 := by
    rw [zero_eq]
    rfl
  by_cases notNumber : wait.isNaN = true
  · rw [max, if_pos notNumber, zero]
  · by_cases negative : wait < 0
    · rw [max, if_neg notNumber, if_pos negative, zero]
    · have numeric : wait.isNaN = false := by simpa using notNumber
      have kept : wait.max 0 = wait := by simp [max, notNumber, negative]
      rw [lt_iff, position_zero] at notPositive negative
      simp only [isInstant_zero.isNaN_eq, numeric, true_and, position] at notPositive negative
      rw [kept]
      split at notPositive
      · rename_i signed
        rw [if_pos signed] at negative
        omega
      · omega

theorem not_pos_max_zero {wait : Binary64} (notPositive : ¬ 0 < wait) : ¬ 0 < wait.max 0 := by
  have none := magnitude_max_zero notPositive
  rw [lt_iff, position_zero]
  simp [position, none]

/-- A wait that is not positive is none. -/
theorem add_max_zero_of_not_pos {wait : Binary64} (instant : IsInstant x)
    (notPositive : ¬ 0 < wait) : x + wait.max 0 = x := by
  have nonneg := max_zero_nonneg wait
  apply eq_of_rank_eq
  rw [rank_add instant nonneg, instant.rank_eq, sumMagnitude, magnitude_max_zero notPositive]
  exact congrArg Nat.cast (nearestMagnitude_unitsOf instant.numeric)

theorem not_pos_ofUnits {count : Int} (nonpos : count ≤ 0) (zeroSign : Bool) :
    ¬ 0 < ofUnits count zeroSign := by
  intro positive
  obtain ⟨-, -, above⟩ := lt_iff.1 positive
  rw [position_zero, ofUnits] at above
  split at above
  · simp [position, ofParts] at above
  · have negative : decide (count < 0) = true := by
      rw [decide_eq_true_iff]
      omega
    rw [negative] at above
    simp only [nearest, position, ofParts, if_true] at above
    omega

/-- The difference of finite instants is exact before it is rounded. -/
theorem sub_eq_ofUnits (left : IsInstant x) (right : IsInstant y)
    (xFinite : x.magnitude ≠ infinityMagnitude) (yFinite : y.magnitude ≠ infinityMagnitude) :
    y - x = ofUnits ((unitsOf y.magnitude : Int) - unitsOf x.magnitude) false := by
  change passNaN y x (sum y (-x)) = _
  have signed : (-x : Binary64).negative = true := by
    change (!x.negative) = true
    rw [left.unsigned]
    rfl
  have sameMagnitude : (-x : Binary64).magnitude = x.magnitude := rfl
  simp [passNaN, sum, isInfinite, right.isNaN_eq, left.isNaN_eq, yFinite, xFinite,
    right.unsigned, signed, units, sameMagnitude, Int.sub_eq_add_neg]

/-- Waiting for `y` from `x` on ends at `x`, or at most one step after `y`. -/
theorem rank_add_wait_le (left : IsInstant x) (right : IsInstant y) (wait : 0 < y - x) :
    (x + (y - x)).rank ≤ Max.max x.rank (y.rank + 1) := by
  have bounded := (left.add (le_of_lt wait)).rank_le_infinity
  by_cases yInfinite : y.magnitude = infinityMagnitude
  · have here : y.rank = infinityMagnitude := by rw [right.rank_eq, yInfinite]
    omega
  by_cases xInfinite : x.magnitude = infinityMagnitude
  · have here : x.rank = infinityMagnitude := by rw [left.rank_eq, xInfinite]
    omega
  have difference := sub_eq_ofUnits left right xInfinite yInfinite
  have ahead : unitsOf x.magnitude < unitsOf y.magnitude := by
    apply Nat.lt_of_not_le
    intro notAhead
    rw [difference] at wait
    exact not_pos_ofUnits (by omega) false wait
  obtain ⟨count, distance⟩ : ∃ count : Nat, unitsOf y.magnitude = unitsOf x.magnitude + count :=
    ⟨_, (Nat.add_sub_cancel' (Nat.le_of_lt ahead)).symm⟩
  have rounded : y - x = ofParts false (nearestMagnitude count 1) := by
    have gap : (unitsOf y.magnitude : Int) - unitsOf x.magnitude = count := by omega
    rw [difference, gap, ofUnits_natCast]
  have finite : y.magnitude < infinityMagnitude := Nat.lt_of_le_of_ne right.numeric yInfinite
  have reached : sumMagnitude x (y - x) ≤ y.magnitude + 1 := by
    have step := unitsOf_nearestMagnitude_le (distance ▸ Nat.le_add_left _ _) finite
    rw [sumMagnitude, rounded, ofParts_magnitude false (nearestMagnitude_le _ _)]
    calc
      nearestMagnitude (unitsOf x.magnitude + unitsOf (nearestMagnitude count 1)) 1
        ≤ nearestMagnitude (unitsOf (y.magnitude + 1)) 1 := nearestMagnitude_mono (by omega)
      _ = y.magnitude + 1 := nearestMagnitude_unitsOf finite
  rw [rank_add left (le_of_lt wait), right.rank_eq]
  exact Int.le_trans (Int.ofNat_le.2 reached) (Int.le_max_right _ _)

end Binary64

open Binary64

theorem isScale_millisecondsPerSecond : millisecondsPerSecond.IsScale :=
  ⟨⟨by decide +kernel, by decide +kernel⟩, by decide +kernel, by decide +kernel⟩

section Conversions

variable {earlier later : Binary64}

theorem isInstant_toEngineTime (instant : earlier.IsInstant) :
    (toEngineTime earlier).IsInstant := by
  rw [toEngineTime, IsScale.mul_eq isScale_millisecondsPerSecond instant]
  exact isInstant_ofParts (scaled_le_infinity _ _ _)

theorem isInstant_ofEngineTime (instant : earlier.IsInstant) :
    (ofEngineTime earlier).IsInstant := by
  rw [ofEngineTime, IsScale.div_eq isScale_millisecondsPerSecond instant]
  exact isInstant_ofParts (scaled_le_infinity _ _ _)

theorem toEngineTime_mono (left : earlier.IsInstant) (right : later.IsInstant)
    (le : earlier.rank ≤ later.rank) : (toEngineTime earlier).rank ≤ (toEngineTime later).rank := by
  rw [toEngineTime, toEngineTime, IsScale.mul_eq isScale_millisecondsPerSecond left,
    IsScale.mul_eq isScale_millisecondsPerSecond right, rank_ofParts (scaled_le_infinity _ _ _),
    rank_ofParts (scaled_le_infinity _ _ _)]
  exact Int.ofNat_le.2 (scaled_mono left right le)

theorem ofEngineTime_mono (left : earlier.IsInstant) (right : later.IsInstant)
    (le : earlier.rank ≤ later.rank) : (ofEngineTime earlier).rank ≤ (ofEngineTime later).rank := by
  rw [ofEngineTime, ofEngineTime, IsScale.div_eq isScale_millisecondsPerSecond left,
    IsScale.div_eq isScale_millisecondsPerSecond right, rank_ofParts (scaled_le_infinity _ _ _),
    rank_ofParts (scaled_le_infinity _ _ _)]
  exact Int.ofNat_le.2 (scaled_mono left right le)

end Conversions

end CoSimulation
