import CoSimulation.Proofs.Binary64.Rounding
import Mathlib.Order.Basic

/-!
# Instants

A clock reading is a number without a sign bit that is not NaN.  On such numbers
the numeric order and the total order of bit patterns agree, and adding a delay
that is not negative leads to an instant that is not earlier.
-/

namespace CoSimulation.Binary64

/-- A number without a sign bit that is not NaN; infinity is one. -/
structure IsInstant (x : Binary64) : Prop where
  unsigned : x.negative = false
  numeric : x.magnitude ≤ infinityMagnitude

theorem infinityMagnitude_lt : infinityMagnitude < twoTo 63 := by decide

theorem ofParts_magnitude {magnitude : Nat} (sign : Bool)
    (bounded : magnitude ≤ infinityMagnitude) :
    (ofParts sign magnitude).magnitude = magnitude :=
  Nat.mod_eq_of_lt (Nat.lt_of_le_of_lt bounded infinityMagnitude_lt)

theorem zero_eq : (0 : Binary64) = zero := by decide +kernel

@[simp] theorem rank_zero : (0 : Binary64).rank = 0 := by
  rw [zero_eq]
  rfl

theorem isInstant_zero : IsInstant 0 := by
  rw [zero_eq]
  exact ⟨rfl, Nat.zero_le _⟩

theorem isInstant_ofParts {magnitude : Nat} (bounded : magnitude ≤ infinityMagnitude) :
    IsInstant (ofParts false magnitude) :=
  ⟨rfl, by rw [ofParts_magnitude false bounded]; exact bounded⟩

/-! ## Order -/

theorem IsInstant.isNaN_eq {x : Binary64} (instant : IsInstant x) : x.isNaN = false := by
  simpa [isNaN] using instant.numeric

theorem IsInstant.rank_eq {x : Binary64} (instant : IsInstant x) :
    x.rank = x.magnitude := by
  simp [rank, instant.unsigned]

theorem IsInstant.position_eq {x : Binary64} (instant : IsInstant x) :
    x.position = x.rank := by
  simp [position, rank, instant.unsigned]

theorem IsInstant.rank_nonneg {x : Binary64} (instant : IsInstant x) : 0 ≤ x.rank := by
  rw [instant.rank_eq]
  exact Int.natCast_nonneg _

theorem IsInstant.le_iff {x y : Binary64} (left : IsInstant x) (right : IsInstant y) :
    x ≤ y ↔ x.rank ≤ y.rank := by
  change le x y = true ↔ _
  simp [le, left.isNaN_eq, right.isNaN_eq, left.position_eq, right.position_eq]

theorem IsInstant.lt_iff {x y : Binary64} (left : IsInstant x) (right : IsInstant y) :
    x < y ↔ x.rank < y.rank := by
  change lt x y = true ↔ _
  simp [lt, left.isNaN_eq, right.isNaN_eq, left.position_eq, right.position_eq]

/-- Different bit patterns have different ranks. -/
theorem eq_of_rank_eq {x y : Binary64} (same : x.rank = y.rank) : x = y := by
  cases x
  cases y
  simp only [rank, Binary64.mk.injEq] at same ⊢
  split at same <;> split at same <;> simp_all
  all_goals omega

theorem rank_inj {x y : Binary64} : x.rank = y.rank ↔ x = y :=
  ⟨eq_of_rank_eq, congrArg rank⟩

theorem position_le_of_rank_le {x y : Binary64} (le : x.rank ≤ y.rank) :
    x.position ≤ y.position := by
  simp only [rank, position] at le ⊢
  split at le <;> split at le <;> simp_all
  all_goals omega

/-- The total order of bit patterns agrees with the numeric order. -/
theorem rank_lt_of_lt {x y : Binary64} (less : x < y) : x.rank < y.rank := by
  obtain ⟨-, -, order⟩ := lt_iff.1 less
  apply Int.not_le.1
  intro notLess
  exact Int.not_le.2 order (position_le_of_rank_le notLess)

theorem toBits_inj {x y : Binary64} : x.toBits = y.toBits ↔ x = y := by
  refine ⟨fun same => ?_, congrArg toBits⟩
  obtain ⟨negative, magnitude, bounded⟩ := x
  obtain ⟨sign, size, limited⟩ := y
  simp only [toBits, Binary64.mk.injEq] at same ⊢
  -- the sign bit is worth more than any magnitude
  cases negative <;> cases sign <;>
    simp only [Bool.false_eq_true, if_true, if_false, false_and, true_and, reduceCtorEq] at same ⊢ <;>
    omega

theorem position_zero : (0 : Binary64).position = 0 := by
  rw [zero_eq]
  rfl

/-- A number that is at least zero: of those with a sign bit only `-0` is. -/
theorem nonneg_iff {y : Binary64} :
    0 ≤ y ↔ y.magnitude ≤ infinityMagnitude ∧ (y.negative = true → y.magnitude = 0) := by
  rw [le_iff, position_zero, isInstant_zero.isNaN_eq]
  cases sign : y.negative <;> simp [isNaN, position, sign]

theorem lt_of_not_le {x y : Binary64} (left : 0 < x) (right : 0 < y) (notLe : ¬ y ≤ x) :
    x < y := by
  obtain ⟨-, first, -⟩ := lt_iff.1 left
  obtain ⟨-, second, -⟩ := lt_iff.1 right
  exact lt_iff.2 ⟨first, second, Int.not_le.1 fun order => notLe (le_iff.2 ⟨second, first, order⟩)⟩

theorem pos_of_pos_of_le {x y : Binary64} (positive : 0 < x) (le : x ≤ y) : 0 < y := by
  obtain ⟨zero, -, above⟩ := lt_iff.1 positive
  obtain ⟨-, numeric, order⟩ := le_iff.1 le
  exact lt_iff.2 ⟨zero, numeric, Int.lt_of_lt_of_le above order⟩

theorem le_of_lt {x y : Binary64} (less : x < y) : x ≤ y := by
  obtain ⟨left, right, order⟩ := lt_iff.1 less
  exact le_iff.2 ⟨left, right, Int.le_of_lt order⟩

theorem isInstant_of_pos {y : Binary64} (positive : 0 < y) : IsInstant y := by
  obtain ⟨bounded, zeroIfSigned⟩ := nonneg_iff.1 (le_of_lt positive)
  refine ⟨?_, bounded⟩
  cases sign : y.negative with
  | false => rfl
  | true =>
      obtain ⟨-, -, above⟩ := lt_iff.1 positive
      rw [position_zero] at above
      simp [position, sign, zeroIfSigned sign] at above

theorem nonneg_of_isInstant {y : Binary64} (instant : IsInstant y) : 0 ≤ y :=
  nonneg_iff.2 ⟨instant.numeric, fun signed => by simp [instant.unsigned] at signed⟩

theorem max_zero_of_nonneg {delay : Binary64} (nonneg : 0 ≤ delay) : delay.max 0 = delay := by
  obtain ⟨-, numeric, above⟩ := le_iff.1 nonneg
  have notLess : ¬ delay < 0 := fun less => by
    have below := (lt_iff.1 less).2.2
    omega
  simp [max, numeric, notLess]

theorem max_zero_of_pos {delay : Binary64} (positive : 0 < delay) : delay.max 0 = delay :=
  max_zero_of_nonneg (le_of_lt positive)

/-! ## Sums -/

/-- The magnitude of the sum of two numbers that are not negative. -/
def sumMagnitude (x y : Binary64) : Nat :=
  nearestMagnitude (unitsOf x.magnitude + unitsOf y.magnitude) 1

theorem sumMagnitude_of_infinite {x y : Binary64}
    (infinite : x.magnitude = infinityMagnitude ∨ y.magnitude = infinityMagnitude) :
    sumMagnitude x y = infinityMagnitude := by
  apply Nat.le_antisymm (nearestMagnitude_le _ _)
  calc
    infinityMagnitude = nearestMagnitude (unitsOf infinityMagnitude) 1 :=
      (nearestMagnitude_unitsOf (Nat.le_refl _)).symm
    _ ≤ sumMagnitude x y := nearestMagnitude_mono (by
      rcases infinite with left | right
      · rw [left]
        exact Nat.le_add_right _ _
      · rw [right]
        exact Nat.le_add_left _ _)

/-- An infinite instant is infinity. -/
theorem IsInstant.eq_infinity {x : Binary64} (instant : IsInstant x)
    (infinite : x.magnitude = infinityMagnitude) : x = ofParts false infinityMagnitude := by
  cases x
  simp only at infinite
  subst infinite
  have unsigned := instant.unsigned
  simp only at unsigned
  subst unsigned
  rfl

theorem units_of_nonneg {y : Binary64} (nonneg : 0 ≤ y) :
    y.units = (unitsOf y.magnitude : Int) := by
  obtain ⟨-, zeroIfSigned⟩ := nonneg_iff.1 nonneg
  cases sign : y.negative with
  | false => simp [units, sign]
  | true =>
      have zero := zeroIfSigned sign
      simp [units, zero, unitsOf_eq]

theorem ofUnits_natCast (count : Nat) :
    ofUnits (count : Int) false = ofParts false (nearestMagnitude count 1) := by
  by_cases zero : count = 0
  · subst zero
    rfl
  · have unsigned : ¬ (count : Int) < 0 := by omega
    simp [ofUnits, nearest, zero, unsigned]

/-- The sum of an instant and a delay that is not negative has no case of its own for
infinity, because infinitely many units are rounded to infinity. -/
theorem add_eq {x y : Binary64} (instant : IsInstant x) (nonneg : 0 ≤ y) :
    x + y = ofParts false (sumMagnitude x y) := by
  obtain ⟨bounded, zeroIfSigned⟩ := nonneg_iff.1 nonneg
  have numeric : y.isNaN = false := by simpa [isNaN] using bounded
  have yInstant : y.magnitude = infinityMagnitude → IsInstant y := by
    intro infinite
    refine ⟨?_, bounded⟩
    cases sign : y.negative with
    | false => rfl
    | true =>
        rw [zeroIfSigned sign] at infinite
        exact absurd infinite (by decide)
  change passNaN x y (sum x y) = _
  simp only [passNaN, instant.isNaN_eq, numeric, Bool.false_eq_true, if_false]
  by_cases left : x.magnitude = infinityMagnitude
  · have sameSign : (y.isInfinite && x.negative != y.negative) = false := by
      by_cases right : y.magnitude = infinityMagnitude
      · simp [instant.unsigned, (yInstant right).unsigned]
      · simp [isInfinite, right]
    rw [sumMagnitude_of_infinite (.inl left), ← instant.eq_infinity left]
    have infinite : x.isInfinite = true := by simp [isInfinite, left]
    simp only [sum, infinite, sameSign, if_true, Bool.false_eq_true, if_false]
  · by_cases right : y.magnitude = infinityMagnitude
    · rw [sumMagnitude_of_infinite (.inr right), ← (yInstant right).eq_infinity right]
      simp [sum, isInfinite, left, right]
    · have finite : sum x y = ofUnits (x.units + y.units) false := by
        simp [sum, isInfinite, left, right, instant.unsigned]
      rw [finite, units_of_nonneg (nonneg_of_isInstant instant), units_of_nonneg nonneg,
        ← Int.natCast_add, ofUnits_natCast]
      rfl

/-- A delay never leads to NaN. -/
theorem IsInstant.add {x y : Binary64} (instant : IsInstant x) (nonneg : 0 ≤ y) :
    IsInstant (x + y) := by
  rw [add_eq instant nonneg]
  exact isInstant_ofParts (nearestMagnitude_le _ _)

theorem rank_add {x y : Binary64} (instant : IsInstant x) (nonneg : 0 ≤ y) :
    (x + y).rank = sumMagnitude x y := by
  have bounded : sumMagnitude x y ≤ infinityMagnitude := nearestMagnitude_le _ _
  rw [(instant.add nonneg).rank_eq, add_eq instant nonneg, ofParts_magnitude false bounded]

/-- A delay never leads back in time. -/
theorem rank_le_add {x y : Binary64} (instant : IsInstant x) (nonneg : 0 ≤ y) :
    x.rank ≤ (x + y).rank := by
  rw [rank_add instant nonneg, instant.rank_eq, Int.ofNat_le]
  calc
    x.magnitude = nearestMagnitude (unitsOf x.magnitude) 1 :=
      (nearestMagnitude_unitsOf instant.numeric).symm
    _ ≤ sumMagnitude x y := nearestMagnitude_mono (Nat.le_add_right _ _)

/-- A longer delay does not lead to an earlier time. -/
theorem rank_add_mono {x shorter longer : Binary64} (instant : IsInstant x)
    (nonneg : 0 ≤ shorter) (le : shorter ≤ longer) :
    (x + shorter).rank ≤ (x + longer).rank := by
  obtain ⟨-, numeric, positions⟩ := le_iff.1 le
  obtain ⟨-, -, above⟩ := le_iff.1 nonneg
  have longerNonneg : 0 ≤ longer :=
    le_iff.2 ⟨isInstant_zero.isNaN_eq, numeric, Int.le_trans above positions⟩
  have magnitudes : shorter.magnitude ≤ longer.magnitude := by
    obtain ⟨-, shorterZero⟩ := nonneg_iff.1 nonneg
    obtain ⟨-, longerZero⟩ := nonneg_iff.1 longerNonneg
    cases left : shorter.negative with
    | true => simp [shorterZero left]
    | false =>
        cases right : longer.negative with
        | false => simpa [position, left, right] using positions
        | true => simpa [position, left, right, longerZero right] using positions
  rw [rank_add instant nonneg, rank_add instant longerNonneg, Int.ofNat_le]
  exact nearestMagnitude_mono (Nat.add_le_add_left (unitsOf_mono magnitudes) _)

theorem add_zero {x : Binary64} (instant : IsInstant x) : x + 0 = x := by
  have nonneg : (0 : Binary64) ≤ 0 := nonneg_of_isInstant isInstant_zero
  apply eq_of_rank_eq
  have none : unitsOf (0 : Binary64).magnitude = 0 := by
    rw [zero_eq]
    rfl
  rw [rank_add instant nonneg, instant.rank_eq, sumMagnitude, none, Nat.add_zero,
    nearestMagnitude_unitsOf instant.numeric]

theorem zero_add {x : Binary64} (instant : IsInstant x) : 0 + x = x := by
  have nonneg : 0 ≤ x := nonneg_of_isInstant instant
  apply eq_of_rank_eq
  have none : unitsOf (0 : Binary64).magnitude = 0 := by
    rw [zero_eq]
    rfl
  rw [rank_add isInstant_zero nonneg, instant.rank_eq, sumMagnitude, none, Nat.zero_add,
    nearestMagnitude_unitsOf instant.numeric]

end CoSimulation.Binary64
