import CoSimulation.Proofs.Binary64.Counts
import CoSimulation.Proofs.Clocks

/-!
# What a fraction is rounded to

A fraction of units is rounded to a magnitude if it lies between the middles to the two
neighbours; a middle itself is rounded to the even one.  The products and quotients of
numbers that are exact counts are therefore what their exact value is rounded to.
-/

namespace CoSimulation.Binary64

variable {numerator denominator : Nat}

/-! ## Half a step from either side -/

/-- Rounding takes away at most half of what is divided by, and less unless the result is
even. -/
theorem le_divideToEven_mul (numerator : Nat) (positive : 0 < denominator) :
    2 * numerator + divideToEven numerator denominator % 2 ≤
      2 * (divideToEven numerator denominator * denominator) + denominator := by
  have split : denominator * (numerator / denominator) + numerator % denominator = numerator :=
    Nat.div_add_mod numerator denominator
  have rest : numerator % denominator < denominator := Nat.mod_lt _ positive
  have commuted := Nat.mul_comm (numerator / denominator) denominator
  simp only [divideToEven]
  split_ifs
  · omega
  · rw [Nat.add_mul]
    omega
  · rw [Nat.add_mul]
    omega

/-- The magnitude that a fraction is rounded to, before it is cut off at infinity. -/
def uncut (numerator denominator : Nat) : Nat :=
  scaleOf (numerator / denominator) * 2 ^ 52 +
    divideToEven numerator (denominator * 2 ^ scaleOf (numerator / denominator))

theorem nearestMagnitude_eq_min (numerator denominator : Nat) :
    nearestMagnitude numerator denominator =
      Nat.min (uncut numerator denominator) infinityMagnitude := rfl

theorem uncut_of_finite
    (finite : nearestMagnitude numerator denominator < infinityMagnitude) :
    uncut numerator denominator = nearestMagnitude numerator denominator := by
  rw [nearestMagnitude_eq_min] at finite ⊢
  rcases Nat.le_total (uncut numerator denominator) infinityMagnitude with below | above
  · exact (Nat.min_eq_left below).symm
  · exact absurd ((Nat.min_eq_right above).symm.trans_lt finite) (Nat.lt_irrefl _)

theorem unitsOf_uncut (numerator denominator : Nat) :
    unitsOf (uncut numerator denominator) =
      divideToEven numerator (denominator * 2 ^ scaleOf (numerator / denominator)) *
        2 ^ scaleOf (numerator / denominator) :=
  unitsOf_scaled (scaled_normal numerator denominator) (scaled_le numerator denominator)

theorem half_step_of_uncut {lower : Nat} (positive : 0 < denominator)
    (top : lower + 1 = uncut numerator denominator) :
    (unitsOf (lower + 1) + unitsOf lower) * denominator + (lower + 1) % 2 ≤ 2 * numerator := by
  have units := unitsOf_uncut numerator denominator
  rw [← top] at units
  rw [uncut] at top
  have normal := scaled_normal numerator denominator
  have bounded := scaled_le numerator denominator
  have large : 0 < scaleOf (numerator / denominator) →
      2 ^ (scaleOf (numerator / denominator) + 52) ≤ numerator / denominator :=
    twoPow_scaleOf_le
  generalize scaleOf (numerator / denominator) = scale at *
  have half := divideToEven_mul_le numerator
    (Nat.mul_pos positive (Nat.two_pow_pos scale))
  generalize divideToEven numerator (denominator * 2 ^ scale) = significand at *
  have less := unitsOf_lt_succ lower
  by_cases first : 0 < scale ∧ significand = 2 ^ 52
  · -- the step below is shorter, but then nothing was rounded up
    have even : (lower + 1) % 2 = 0 := by omega
    have reached : 2 ^ 52 * 2 ^ scale * denominator ≤ numerator := by
      rw [← Nat.pow_add, Nat.add_comm 52]
      exact (Nat.le_div_iff_mul_le positive).1 (large first.1)
    rw [first.2] at units
    calc
      (unitsOf (lower + 1) + unitsOf lower) * denominator + (lower + 1) % 2
        ≤ 2 * (2 ^ 52 * 2 ^ scale) * denominator := by
          rw [even, Nat.add_zero]
          exact Nat.mul_le_mul_right _ (by omega)
      _ ≤ 2 * numerator := by
          rw [Nat.mul_assoc]
          exact Nat.mul_le_mul_left 2 reached
  · obtain ⟨previous, rfl⟩ : ∃ previous, significand = previous + 1 := by
      refine Nat.exists_eq_succ_of_ne_zero fun none => ?_
      omega
    have below : unitsOf lower = previous * 2 ^ scale := by
      have place : lower = scale * 2 ^ 52 + previous := by omega
      rw [place]
      exact unitsOf_scaled (by omega) (by omega)
    have parity : (lower + 1) % 2 = (previous + 1) % 2 := by omega
    have sum : 2 * ((previous + 1) * (denominator * 2 ^ scale)) =
        ((previous + 1) * 2 ^ scale + previous * 2 ^ scale) * denominator +
          denominator * 2 ^ scale := by ring
    rw [units, below]
    omega

/-- What is rounded up to a magnitude is at least half a step above the one before, and more
if the magnitude is odd. -/
theorem half_step_up {lower : Nat} (positive : 0 < denominator)
    (reached : lower + 1 ≤ uncut numerator denominator) :
    (unitsOf (lower + 1) + unitsOf lower) * denominator + (lower + 1) % 2 ≤ 2 * numerator := by
  obtain ⟨top, equal⟩ :=
    Nat.exists_eq_add_of_le' (Nat.le_trans (Nat.le_add_left 1 lower) reached)
  have step := half_step_of_uncut positive equal.symm
  rcases Nat.lt_or_eq_of_le reached with later | same
  · have above : unitsOf (lower + 1) ≤ unitsOf top := unitsOf_mono (by omega)
    have less := unitsOf_lt_succ lower
    have final := unitsOf_lt_succ top
    have apart : (unitsOf (lower + 1) + unitsOf lower + 1) * denominator ≤
        (unitsOf (top + 1) + unitsOf top) * denominator :=
      Nat.mul_le_mul_right _ (by omega)
    rw [Nat.add_one_mul] at apart
    omega
  · have last : lower = top := by omega
    exact last ▸ step

/-- What is rounded down to a magnitude is at most half a step above it, and less if the
magnitude is odd. -/
theorem half_step_down {lower : Nat} (positive : 0 < denominator)
    (bounded : uncut numerator denominator ≤ lower) :
    2 * numerator + lower % 2 ≤ (unitsOf lower + unitsOf (lower + 1)) * denominator := by
  have units := unitsOf_uncut numerator denominator
  have normal := scaled_normal numerator denominator
  have limit := scaled_le numerator denominator
  have place : uncut numerator denominator = _ := uncut.eq_1 numerator denominator
  generalize scaleOf (numerator / denominator) = scale at *
  have half := le_divideToEven_mul numerator (Nat.mul_pos positive (Nat.two_pow_pos scale))
  generalize divideToEven numerator (denominator * 2 ^ scale) = significand at *
  generalize uncut numerator denominator = top at *
  have step : unitsOf top + 2 ^ scale ≤ unitsOf (top + 1) := by
    by_cases full : significand = 2 ^ 53
    · have next : top + 1 = (scale + 1) * 2 ^ 52 + (2 ^ 52 + 1) := by omega
      rw [next, unitsOf_scaled (.inr (by decide)) (by decide), units, full, Nat.pow_succ]
      omega
    · have next : top + 1 = scale * 2 ^ 52 + (significand + 1) := by omega
      rw [next, unitsOf_scaled (by omega) (by omega), units]
      exact Nat.le_of_eq (by ring)
  have reached : 2 * numerator + significand % 2 ≤
      (unitsOf top + unitsOf (top + 1)) * denominator := by
    calc
      2 * numerator + significand % 2
        ≤ 2 * (significand * (denominator * 2 ^ scale)) + denominator * 2 ^ scale := half
      _ = (unitsOf top + (unitsOf top + 2 ^ scale)) * denominator := by
          rw [units]
          ring
      _ ≤ (unitsOf top + unitsOf (top + 1)) * denominator :=
          Nat.mul_le_mul_right _ (Nat.add_le_add_left step _)
  rcases Nat.lt_or_eq_of_le bounded with later | rfl
  · have above : unitsOf (top + 1) ≤ unitsOf lower := unitsOf_mono later
    have less := unitsOf_lt_succ top
    have final := unitsOf_lt_succ lower
    have apart : (unitsOf top + unitsOf (top + 1) + 1) * denominator ≤
        (unitsOf lower + unitsOf (lower + 1)) * denominator :=
      Nat.mul_le_mul_right _ (by omega)
    rw [Nat.add_one_mul] at apart
    omega
  · have parity : top % 2 = significand % 2 := by omega
    omega

/-- What lies between the middles to the neighbours of a magnitude is rounded to it. -/
theorem nearestMagnitude_eq_of_between {lower : Nat} (positive : 0 < denominator)
    (bounded : lower + 1 ≤ infinityMagnitude)
    (above : (unitsOf lower + unitsOf (lower + 1)) * denominator + (lower + 1) % 2 ≤
      2 * numerator)
    (below : 2 * numerator + (lower + 1) % 2 ≤
      (unitsOf (lower + 1) + unitsOf (lower + 1 + 1)) * denominator) :
    nearestMagnitude numerator denominator = lower + 1 := by
  have top : uncut numerator denominator = lower + 1 := by
    apply Nat.le_antisymm
    · by_contra beyond
      have more := half_step_up positive (Nat.lt_of_not_le beyond)
      rw [Nat.add_comm (unitsOf (lower + 1 + 1))] at more
      omega
    · by_contra short
      have less := half_step_down positive (Nat.le_of_lt_succ (Nat.lt_of_not_le short))
      omega
  rw [nearestMagnitude_eq_min, top]
  exact Nat.min_eq_left bounded

/-! ## Fractions of the same value -/

theorem divideToEven_mul_mul (numerator denominator : Nat) {factor : Nat} (positive : 0 < factor) :
    divideToEven (numerator * factor) (denominator * factor) =
      divideToEven numerator denominator := by
  simp only [divideToEven, Nat.mul_div_mul_right _ _ positive, Nat.mul_mod_mul_right,
    ← Nat.mul_assoc, Nat.mul_lt_mul_right positive]

theorem nearestMagnitude_mul_mul (numerator denominator : Nat) {factor : Nat}
    (positive : 0 < factor) :
    nearestMagnitude (numerator * factor) (denominator * factor) =
      nearestMagnitude numerator denominator := by
  rw [nearestMagnitude_eq, nearestMagnitude_eq, Nat.mul_div_mul_right _ _ positive,
    Nat.mul_right_comm, divideToEven_mul_mul _ _ positive]

theorem nearestMagnitude_anti {smaller larger : Nat} (positive : 0 < smaller)
    (le : smaller ≤ larger) :
    nearestMagnitude numerator larger ≤ nearestMagnitude numerator smaller := by
  have more := Nat.lt_of_lt_of_le positive le
  calc nearestMagnitude numerator larger
      = nearestMagnitude (numerator * smaller) (larger * smaller) :=
        (nearestMagnitude_mul_mul _ _ positive).symm
    _ ≤ nearestMagnitude (numerator * larger) (larger * smaller) :=
        nearestMagnitude_mono (Nat.mul_le_mul_left _ le)
    _ = nearestMagnitude (numerator * larger) (smaller * larger) := by rw [Nat.mul_comm larger]
    _ = nearestMagnitude numerator smaller := nearestMagnitude_mul_mul _ _ more

theorem nearestMagnitude_pos (positive : 0 < denominator)
    (le : denominator ≤ numerator) : 0 < nearestMagnitude numerator denominator := by
  have unit : unitsOf 1 = 1 := rfl
  have one := nearestMagnitude_unitsOf (show 1 ≤ infinityMagnitude by decide)
  have same := nearestMagnitude_mul_mul 1 1 positive
  rw [unit] at one
  rw [one, Nat.one_mul] at same
  calc 0 < nearestMagnitude denominator denominator := by rw [same]; exact Nat.one_pos
    _ ≤ nearestMagnitude numerator denominator := nearestMagnitude_mono le

/-! ## Exact counts -/

/-- A product of at most 53 bits with a power of two is the units of a magnitude. -/
theorem exists_unitsOf {significand : Nat} (bounded : significand ≤ 2 ^ 53) (scale : Nat) :
    ∃ magnitude, unitsOf magnitude = significand * 2 ^ scale := by
  induction scale generalizing significand with
  | zero => exact ⟨_, unitsOf_scaled (.inl rfl) bounded⟩
  | succ scale induction =>
      by_cases normal : 2 ^ 52 ≤ significand
      · exact ⟨_, unitsOf_scaled (.inr normal) bounded⟩
      · obtain ⟨magnitude, units⟩ := induction (show 2 * significand ≤ 2 ^ 53 by omega)
        refine ⟨magnitude, ?_⟩
        rw [units, Nat.pow_succ]
        ring

theorem unitsOf_strictMono : StrictMono unitsOf := strictMono_nat_of_lt_succ unitsOf_lt_succ

/-- An exact count of units that is not too large is not changed by rounding. -/
theorem unitsOf_nearestMagnitude {significand scale : Nat} (bounded : significand ≤ 2 ^ 53)
    (finite : significand * 2 ^ scale < unitsOf infinityMagnitude) :
    unitsOf (nearestMagnitude (significand * 2 ^ scale) 1) = significand * 2 ^ scale ∧
      nearestMagnitude (significand * 2 ^ scale) 1 < infinityMagnitude := by
  obtain ⟨magnitude, units⟩ := exists_unitsOf bounded scale
  rw [← units] at finite ⊢
  have inside : magnitude < infinityMagnitude := unitsOf_strictMono.lt_iff_lt.1 finite
  rw [nearestMagnitude_unitsOf (Nat.le_of_lt inside)]
  exact ⟨rfl, inside⟩

end CoSimulation.Binary64
