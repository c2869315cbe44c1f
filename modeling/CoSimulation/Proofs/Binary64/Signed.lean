import CoSimulation.Proofs.Binary64.Instant

/-!
# Sums of either sign

A number that is not NaN is given by its position on the number line, up to the sign of a
zero.  Sums and differences of finite numbers are the positions to which their exact counts of
units are rounded, and rounding is monotone on counts of either sign too.  So adding is, as
far as it gives a number at all.
-/

namespace CoSimulation.Binary64

/-! ## Positions and their units -/

/-- The units of the number at a position. -/
def unitsAt (position : Int) : Int :=
  if position < 0 then -(unitsOf position.natAbs : Int) else unitsOf position.natAbs

/-- The position to which a count of units is rounded. -/
def roundAt (count : Int) : Int :=
  if count < 0 then -(nearestMagnitude count.natAbs 1 : Int) else nearestMagnitude count.natAbs 1

theorem unitsAt_natCast (magnitude : Nat) : unitsAt magnitude = unitsOf magnitude := by
  have unsigned : ¬ (magnitude : Int) < 0 := by omega
  rw [unitsAt, if_neg unsigned, Int.natAbs_natCast]

theorem unitsAt_neg (position : Int) : unitsAt (-position) = -unitsAt position := by
  have none : unitsOf 0 = 0 := rfl
  rw [unitsAt, unitsAt, Int.natAbs_neg]
  split <;> split
  · omega
  · rfl
  · omega
  · have zero : position = 0 := by omega
    simp [zero, none]

theorem roundAt_zero : roundAt 0 = 0 := by
  have none : unitsOf 0 = 0 := rfl
  have rounded := nearestMagnitude_unitsOf (Nat.zero_le infinityMagnitude)
  rw [none] at rounded
  rw [roundAt, if_neg (Int.lt_irrefl 0), Int.natAbs_zero, rounded]
  rfl

theorem units_eq (x : Binary64) : x.units = unitsAt x.position := by
  rw [units, position]
  split
  · rw [unitsAt_neg, unitsAt_natCast]
  · rw [unitsAt_natCast]

theorem roundAt_mono {smaller larger : Int} (le : smaller ≤ larger) :
    roundAt smaller ≤ roundAt larger := by
  rw [roundAt, roundAt]
  split <;> split
  · have magnitudes : larger.natAbs ≤ smaller.natAbs := by omega
    exact Int.neg_le_neg (Int.ofNat_le.2 (nearestMagnitude_mono magnitudes))
  · omega
  · omega
  · have magnitudes : smaller.natAbs ≤ larger.natAbs := by omega
    exact Int.ofNat_le.2 (nearestMagnitude_mono magnitudes)

theorem unitsAt_mono {smaller larger : Int} (le : smaller ≤ larger) :
    unitsAt smaller ≤ unitsAt larger := by
  rw [unitsAt, unitsAt]
  split <;> split
  · have magnitudes : larger.natAbs ≤ smaller.natAbs := by omega
    exact Int.neg_le_neg (Int.ofNat_le.2 (unitsOf_mono magnitudes))
  · omega
  · omega
  · have magnitudes : smaller.natAbs ≤ larger.natAbs := by omega
    exact Int.ofNat_le.2 (unitsOf_mono magnitudes)

theorem natAbs_roundAt_le (count : Int) : (roundAt count).natAbs ≤ infinityMagnitude := by
  have bounded := nearestMagnitude_le count.natAbs 1
  rw [roundAt]
  split <;> omega

/-! ## Sums of numbers -/

variable {x y z : Binary64}

theorem natAbs_position (x : Binary64) : x.position.natAbs = x.magnitude := by
  rw [position]
  split <;> omega

theorem isNaN_eq_false : x.isNaN = false ↔ x.position.natAbs ≤ infinityMagnitude := by
  rw [natAbs_position]
  simp [isNaN]

theorem position_ofParts {magnitude : Nat} (sign : Bool)
    (bounded : magnitude ≤ infinityMagnitude) :
    (ofParts sign magnitude).position = if sign then -(magnitude : Int) else magnitude := by
  rw [position, ofParts_magnitude sign bounded]
  rfl

theorem position_ofUnits (count : Int) (zeroSign : Bool) :
    (ofUnits count zeroSign).position = roundAt count := by
  by_cases zero : count = 0
  · rw [ofUnits, if_pos zero, position_ofParts zeroSign (Nat.zero_le _), zero, roundAt_zero]
    simp
  · rw [ofUnits, if_neg zero, nearest, position_ofParts _ (nearestMagnitude_le _ _), roundAt]
    simp only [decide_eq_true_eq]

/-- A number that is neither NaN nor infinite. -/
def Finite (x : Binary64) : Prop := x.magnitude < infinityMagnitude

theorem Finite.isNaN_eq (finite : x.Finite) : x.isNaN = false := by
  simpa [isNaN] using Nat.le_of_lt finite

theorem Finite.isInfinite_eq (finite : x.Finite) : x.isInfinite = false := by
  simpa [isInfinite] using Nat.ne_of_lt finite

theorem finite_or_infinite (numeric : x.isNaN = false) : x.Finite ∨ x.isInfinite = true := by
  rw [isNaN_eq_false, natAbs_position] at numeric
  rw [Finite, isInfinite, beq_iff_eq]
  omega

theorem position_neg (x : Binary64) : (-x).position = -x.position := by
  change (if !x.negative then -(x.magnitude : Int) else x.magnitude) = -x.position
  rw [position]
  cases x.negative <;> simp

theorem isNaN_neg (x : Binary64) : (-x).isNaN = x.isNaN := rfl

theorem le_of_not_lt (left : x.isNaN = false) (right : y.isNaN = false) (notLess : ¬ y < x) :
    x ≤ y :=
  le_iff.2 ⟨left, right, Int.not_lt.1 fun less => notLess (lt_iff.2 ⟨right, left, less⟩)⟩

theorem le_trans (first : x ≤ y) (second : y ≤ z) : x ≤ z := by
  obtain ⟨left, -, before⟩ := le_iff.1 first
  obtain ⟨-, right, after⟩ := le_iff.1 second
  exact le_iff.2 ⟨left, right, Int.le_trans before after⟩

theorem le_refl (numeric : x.isNaN = false) : x ≤ x := le_iff.2 ⟨numeric, numeric, Int.le_refl _⟩

theorem isNaN_quiet (nan : x.isNaN = true) : x.quiet.isNaN = true := by
  have bounded := x.magnitude_lt
  have above : infinityMagnitude < x.magnitude := by simpa [isNaN] using nan
  rw [quiet]
  split
  · exact nan
  · rename_i clear
    have kept : (ofParts x.negative (x.magnitude + twoTo 51)).magnitude =
        x.magnitude + twoTo 51 := by
      have half : twoTo 51 = 2 ^ 51 := by decide
      have whole : twoTo 63 = 2 ^ 63 := by decide
      rw [beq_iff_eq, half] at clear
      rw [whole] at bounded
      apply Nat.mod_eq_of_lt
      rw [half, whole]
      omega
    rw [isNaN, kept, decide_eq_true_iff]
    exact Nat.lt_of_lt_of_le above (Nat.le_add_right _ _)

/-- An operation gives no number unless both operands are numbers. -/
theorem isNaN_of_passNaN {otherwise : Binary64}
    (numeric : (passNaN x y otherwise).isNaN = false) : x.isNaN = false ∧ y.isNaN = false := by
  rw [passNaN] at numeric
  split at numeric
  · rename_i nan
    rw [isNaN_quiet nan] at numeric
    cases numeric
  · rename_i left
    split at numeric
    · rename_i nan
      rw [isNaN_quiet nan] at numeric
      cases numeric
    · rename_i right
      exact ⟨by simpa using left, by simpa using right⟩

theorem Finite.add_eq (left : x.Finite) (right : y.Finite) :
    x + y = ofUnits (unitsAt x.position + unitsAt y.position) (x.negative && y.negative) := by
  change passNaN x y (sum x y) = _
  simp only [passNaN, sum, left.isNaN_eq, right.isNaN_eq, left.isInfinite_eq,
    right.isInfinite_eq, Bool.false_eq_true, if_false, units_eq]

theorem Finite.position_add (left : x.Finite) (right : y.Finite) :
    (x + y).position = roundAt (unitsAt x.position + unitsAt y.position) := by
  rw [left.add_eq right, position_ofUnits]

/-- What is added to an infinite number does not count, or there is no sum. -/
theorem add_of_infinite (infinite : x.isInfinite = true) (numeric : y.isNaN = false) :
    x + y = x ∨ (x + y).isNaN = true := by
  have number : x.isNaN = false := by
    simp only [isInfinite, beq_iff_eq] at infinite
    simp [isNaN, infinite]
  have same : x + y = if y.isInfinite && x.negative != y.negative then invalid else x := by
    change passNaN x y (sum x y) = _
    simp only [passNaN, sum, number, numeric, infinite, Bool.false_eq_true, if_false, if_true]
  rw [same]
  split
  · exact .inr (by decide)
  · exact .inl rfl

theorem Finite.add_infinite (finite : x.Finite) (infinite : y.isInfinite = true) : x + y = y := by
  have number : y.isNaN = false := by
    simp only [isInfinite, beq_iff_eq] at infinite
    simp [isNaN, infinite]
  change passNaN x y (sum x y) = _
  simp only [passNaN, sum, finite.isNaN_eq, finite.isInfinite_eq, number, infinite,
    Bool.false_eq_true, if_false, if_true]

/-- A finite number has a sum with every number. -/
theorem Finite.isNaN_add (finite : x.Finite) (numeric : y.isNaN = false) :
    (x + y).isNaN = false := by
  rcases finite_or_infinite numeric with other | infinite
  · rw [isNaN_eq_false, finite.position_add other]
    exact natAbs_roundAt_le _
  · rw [finite.add_infinite infinite]
    exact numeric

/-- No position is beyond those of the infinite numbers. -/
theorem natAbs_position_of_infinite (infinite : x.isInfinite = true) :
    x.position.natAbs = infinityMagnitude := by
  rw [natAbs_position]
  simpa [isInfinite] using infinite

/-- Adding more never gives less. -/
theorem not_add_lt (numeric : x.isNaN = false) (le : y ≤ z) : ¬ x + z < x + y := by
  obtain ⟨yNumeric, zNumeric, positions⟩ := le_iff.1 le
  intro less
  obtain ⟨zSum, ySum, order⟩ := lt_iff.1 less
  rcases finite_or_infinite numeric with finite | infinite
  · have zBound := isNaN_eq_false.1 zSum
    have yBound := isNaN_eq_false.1 ySum
    rcases finite_or_infinite yNumeric with yFinite | yInfinite
    · rcases finite_or_infinite zNumeric with zFinite | zInfinite
      · rw [finite.position_add yFinite, finite.position_add zFinite] at order
        have rounded := roundAt_mono (Int.add_le_add_left (unitsAt_mono positions)
          (unitsAt x.position))
        omega
      · have limit := natAbs_position_of_infinite zInfinite
        have inner := natAbs_position y
        rw [finite.add_infinite zInfinite] at order
        rw [Finite] at yFinite
        omega
    · have limit := natAbs_position_of_infinite yInfinite
      rw [finite.add_infinite yInfinite] at order
      rcases finite_or_infinite zNumeric with zFinite | zInfinite
      · have inner := natAbs_position z
        rw [Finite] at zFinite
        omega
      · rw [finite.add_infinite zInfinite] at order
        omega
  · have yKept := (add_of_infinite infinite yNumeric).resolve_right (by simp [ySum])
    have zKept := (add_of_infinite infinite zNumeric).resolve_right (by simp [zSum])
    rw [yKept, zKept] at order
    omega

theorem sub_eq (numeric : y.isNaN = false) : x - y = x + -y := by
  change passNaN x y (sum x (-y)) = passNaN x (-y) (sum x (-y))
  simp only [passNaN, isNaN_neg, numeric, Bool.false_eq_true, if_false]

/-- A difference to something that is not greater is not negative. -/
theorem sub_nonneg (le : x ≤ y) (nonneg : 0 ≤ y) (difference : (y - x).isNaN = false) :
    0 ≤ y - x := by
  obtain ⟨xNumeric, yNumeric, positions⟩ := le_iff.1 le
  rw [sub_eq xNumeric] at difference ⊢
  refine le_iff.2 ⟨isInstant_zero.isNaN_eq, difference, ?_⟩
  rw [position_zero]
  rcases finite_or_infinite yNumeric with finite | infinite
  · have opposite : (-y).Finite := finite
    have none : (y + -y).position = 0 := by
      rw [finite.position_add opposite, position_neg, unitsAt_neg, Int.add_right_neg, roundAt_zero]
    have negated : -y ≤ -x := by
      refine le_iff.2 ⟨yNumeric, xNumeric, ?_⟩
      rw [position_neg, position_neg]
      omega
    have notLess := not_add_lt yNumeric negated
    rw [lt_iff, none] at notLess
    exact Int.not_lt.1 fun less => notLess ⟨difference, finite.isNaN_add opposite.isNaN_eq, less⟩
  · have opposite : (-x).isNaN = false := xNumeric
    rw [(add_of_infinite infinite opposite).resolve_right (by simp [difference])]
    exact position_zero ▸ (le_iff.1 nonneg).2.2

end CoSimulation.Binary64
