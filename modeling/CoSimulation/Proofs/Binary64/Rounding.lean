import CoSimulation.Binary64.Arithmetic
import Mathlib.Tactic.Ring

/-!
# Laws of rounding

Rounding to the nearest magnitude is monotone, and it leaves every magnitude that
is not rounded away where it is.  These two laws are all that the order of sums
needs.
-/

namespace CoSimulation.Binary64

/-! ## Rounding a quotient -/

theorem divideToEven_bounds (numerator denominator : Nat) :
    numerator / denominator ≤ divideToEven numerator denominator ∧
      divideToEven numerator denominator ≤ numerator / denominator + 1 := by
  simp only [divideToEven]
  split
  · omega
  · split
    · omega
    · omega

theorem divideToEven_mono {smaller larger : Nat} (denominator : Nat)
    (below : smaller ≤ larger) :
    divideToEven smaller denominator ≤ divideToEven larger denominator := by
  have quotients : smaller / denominator ≤ larger / denominator :=
    Nat.div_le_div_right below
  rcases Nat.lt_or_eq_of_le quotients with less | same
  · have upper := (divideToEven_bounds smaller denominator).2
    have lower := (divideToEven_bounds larger denominator).1
    omega
  · have remainders : smaller % denominator ≤ larger % denominator := by
      have left := Nat.div_add_mod smaller denominator
      have right := Nat.div_add_mod larger denominator
      rw [same] at left
      omega
    simp only [divideToEven, same]
    split <;> split <;> try split
    all_goals try split
    all_goals omega

theorem divideToEven_mul (whole : Nat) {denominator : Nat} (positive : 0 < denominator) :
    divideToEven (whole * denominator) denominator = whole := by
  simp [divideToEven, Nat.mul_div_cancel _ positive, positive]

/-! ## The nearest magnitude -/

/-- Which power of two divides a count of units when it is rounded. -/
def scaleOf (count : Nat) : Nat := count.log2 - 52

theorem nearestMagnitude_eq (numerator denominator : Nat) :
    nearestMagnitude numerator denominator =
      Nat.min
        (scaleOf (numerator / denominator) * 2 ^ 52 +
          divideToEven numerator (denominator * 2 ^ scaleOf (numerator / denominator)))
        infinityMagnitude := rfl

theorem nearestMagnitude_one (count : Nat) :
    nearestMagnitude count 1 =
      Nat.min (scaleOf count * 2 ^ 52 + divideToEven count (2 ^ scaleOf count))
        infinityMagnitude := by
  rw [nearestMagnitude_eq, Nat.div_one, Nat.one_mul]

theorem lt_twoPow_scaleOf (count : Nat) : count < 2 ^ (scaleOf count + 53) := by
  have bound : count < 2 ^ (count.log2 + 1) := Nat.lt_log2_self
  exact Nat.lt_of_lt_of_le bound (Nat.pow_le_pow_right (by decide) (by
    simp only [scaleOf]
    omega))

theorem twoPow_scaleOf_le {count : Nat} (scaled : 0 < scaleOf count) :
    2 ^ (scaleOf count + 52) ≤ count := by
  have nonzero : count ≠ 0 := by
    intro zero
    simp [scaleOf, zero] at scaled
  have exponent : scaleOf count + 52 = count.log2 := by
    simp only [scaleOf] at scaled ⊢
    omega
  rw [exponent]
  exact Nat.log2_self_le nonzero

theorem scaleOf_mono {smaller larger : Nat} (below : smaller ≤ larger) :
    scaleOf smaller ≤ scaleOf larger := by
  have logs : smaller.log2 ≤ larger.log2 := by
    by_cases zero : smaller = 0
    · simp [zero]
    · exact (Nat.le_log2 (by omega)).2 (Nat.le_trans (Nat.log2_self_le zero) below)
  simp only [scaleOf]
  omega

theorem scaled_le (numerator denominator : Nat) :
    divideToEven numerator (denominator * 2 ^ scaleOf (numerator / denominator)) ≤ 2 ^ 53 := by
  have quotient :
      numerator / (denominator * 2 ^ scaleOf (numerator / denominator)) < 2 ^ 53 := by
    rw [← Nat.div_div_eq_div_mul, Nat.div_lt_iff_lt_mul (Nat.two_pow_pos _), ← Nat.pow_add,
      Nat.add_comm]
    exact lt_twoPow_scaleOf (numerator / denominator)
  have upper := (divideToEven_bounds numerator
    (denominator * 2 ^ scaleOf (numerator / denominator))).2
  omega

theorem le_scaled {numerator denominator : Nat}
    (scaled : 0 < scaleOf (numerator / denominator)) :
    2 ^ 52 ≤ divideToEven numerator (denominator * 2 ^ scaleOf (numerator / denominator)) := by
  have quotient :
      2 ^ 52 ≤ numerator / (denominator * 2 ^ scaleOf (numerator / denominator)) := by
    rw [← Nat.div_div_eq_div_mul, Nat.le_div_iff_mul_le (Nat.two_pow_pos _), ← Nat.pow_add,
      Nat.add_comm]
    exact twoPow_scaleOf_le scaled
  exact Nat.le_trans quotient (divideToEven_bounds _ _).1

/-- A larger fraction of units is never rounded to a smaller magnitude. -/
theorem nearestMagnitude_mono {smaller larger denominator : Nat} (below : smaller ≤ larger) :
    nearestMagnitude smaller denominator ≤ nearestMagnitude larger denominator := by
  rw [nearestMagnitude_eq, nearestMagnitude_eq]
  apply min_le_min_right infinityMagnitude
  have quotients : smaller / denominator ≤ larger / denominator := Nat.div_le_div_right below
  rcases Nat.lt_or_eq_of_le (scaleOf_mono quotients) with less | same
  · -- the smaller fraction fills at most its binade, the larger one starts a later one
    have upper := scaled_le smaller denominator
    have lower := le_scaled (Nat.lt_of_le_of_lt (Nat.zero_le _) less)
    have binades : (scaleOf (smaller / denominator) + 1) * 2 ^ 52 ≤
        scaleOf (larger / denominator) * 2 ^ 52 := Nat.mul_le_mul_right _ less
    omega
  · rw [same]
    exact Nat.add_le_add_left (divideToEven_mono _ below) _

theorem nearestMagnitude_le (numerator denominator : Nat) :
    nearestMagnitude numerator denominator ≤ infinityMagnitude :=
  Nat.min_le_right _ _

/-! ## Magnitudes and their units -/

theorem unitsOf_eq (magnitude : Nat) :
    unitsOf magnitude =
      if magnitude < 2 ^ 52 then magnitude
      else (2 ^ 52 + magnitude % 2 ^ 52) * 2 ^ (magnitude / 2 ^ 52 - 1) := rfl

/-- A finite magnitude is what its units round to. -/
theorem nearestMagnitude_unitsOf {magnitude : Nat}
    (bounded : magnitude ≤ infinityMagnitude) :
    nearestMagnitude (unitsOf magnitude) 1 = magnitude := by
  rw [nearestMagnitude_one, unitsOf_eq]
  split
  · rename_i small
    have unscaled : scaleOf magnitude = 0 := by
      by_cases zero : magnitude = 0
      · simp [scaleOf, zero]
      · have log : magnitude.log2 < 52 := (Nat.log2_lt zero).2 small
        simp only [scaleOf]
        omega
    have exact : divideToEven magnitude 1 = magnitude := by
      simpa using divideToEven_mul magnitude Nat.one_pos
    rw [unscaled, Nat.pow_zero, exact, Nat.zero_mul, Nat.zero_add]
    exact Nat.min_eq_left bounded
  · rename_i large
    have split := Nat.div_add_mod magnitude (2 ^ 52)
    have fraction : magnitude % 2 ^ 52 < 2 ^ 52 := Nat.mod_lt _ (by decide)
    have exponent : 0 < magnitude / 2 ^ 52 :=
      Nat.div_pos (Nat.le_of_not_lt large) (by decide)
    generalize magnitude / 2 ^ 52 = binade at split exponent ⊢
    generalize magnitude % 2 ^ 52 = significand at split fraction ⊢
    have scale : scaleOf ((2 ^ 52 + significand) * 2 ^ (binade - 1)) = binade - 1 := by
      have log : ((2 ^ 52 + significand) * 2 ^ (binade - 1)).log2 = 52 + (binade - 1) := by
        rw [Nat.log2_eq_iff (Nat.mul_ne_zero (by omega) (Nat.two_pow_pos _).ne')]
        constructor
        · rw [Nat.pow_add]
          exact Nat.mul_le_mul_right _ (Nat.le_add_right _ _)
        · rw [show 52 + (binade - 1) + 1 = 53 + (binade - 1) by omega, Nat.pow_add]
          exact Nat.mul_lt_mul_of_pos_right (by omega) (Nat.two_pow_pos _)
      simp only [scaleOf, log]
      omega
    rw [scale, divideToEven_mul _ (Nat.two_pow_pos _)]
    have whole : (binade - 1) * 2 ^ 52 + (2 ^ 52 + significand) = magnitude := by
      obtain ⟨lower, rfl⟩ : ∃ lower, binade = lower + 1 := ⟨binade - 1, by omega⟩
      rw [Nat.add_sub_cancel, ← split]
      ring
    rw [whole]
    exact Nat.min_eq_left bounded

theorem unitsOf_mono {smaller larger : Nat} (below : smaller ≤ larger) :
    unitsOf smaller ≤ unitsOf larger := by
  rw [unitsOf_eq, unitsOf_eq]
  have leftSplit := Nat.div_add_mod smaller (2 ^ 52)
  have rightSplit := Nat.div_add_mod larger (2 ^ 52)
  have leftFraction : smaller % 2 ^ 52 < 2 ^ 52 := Nat.mod_lt _ (by decide)
  split
  · split
    · exact below
    · rename_i small large
      have power : 0 < 2 ^ (larger / 2 ^ 52 - 1) := Nat.two_pow_pos _
      calc
        smaller ≤ 2 ^ 52 + larger % 2 ^ 52 := by omega
        _ ≤ (2 ^ 52 + larger % 2 ^ 52) * 2 ^ (larger / 2 ^ 52 - 1) :=
          Nat.le_mul_of_pos_right _ power
  · split
    · omega
    · rename_i leftLarge rightLarge
      have leftPositive : 0 < smaller / 2 ^ 52 :=
        Nat.div_pos (Nat.le_of_not_lt leftLarge) (by decide)
      have binades : smaller / 2 ^ 52 ≤ larger / 2 ^ 52 := Nat.div_le_div_right below
      rcases Nat.lt_or_eq_of_le binades with less | same
      · calc
          (2 ^ 52 + smaller % 2 ^ 52) * 2 ^ (smaller / 2 ^ 52 - 1)
            ≤ 2 ^ 53 * 2 ^ (smaller / 2 ^ 52 - 1) :=
              Nat.mul_le_mul_right _ (by omega)
          _ = 2 ^ 52 * 2 ^ (smaller / 2 ^ 52 - 1 + 1) := by
              rw [Nat.pow_succ]
              ring
          _ ≤ 2 ^ 52 * 2 ^ (larger / 2 ^ 52 - 1) :=
              Nat.mul_le_mul_left _ (Nat.pow_le_pow_right (by decide) (by omega))
          _ ≤ (2 ^ 52 + larger % 2 ^ 52) * 2 ^ (larger / 2 ^ 52 - 1) :=
              Nat.mul_le_mul_right _ (Nat.le_add_right _ _)
      · rw [same]
        refine Nat.mul_le_mul_right _ (Nat.add_le_add_left ?_ _)
        rw [same] at leftSplit
        omega

end CoSimulation.Binary64
