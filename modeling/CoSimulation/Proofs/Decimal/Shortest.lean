import CoSimulation.Decimal.Shortest
import CoSimulation.Proofs.Binary64.Nearest

/-!
# Laws of shortest decimals

The decimal with which a number is written lies between the middles to the neighbours of the
number, so it is rounded to the number.  It has few digits, because the next coarser grid has
no point in that interval.
-/

namespace CoSimulation.Decimal

open Binary64

/-! ## Grids -/

/-- The denominator of a grid's step in half units. -/
def widthAt (exponent : Int) : Nat := tenTo (-exponent).toNat

/-- The numerator of a grid's step in half units. -/
def stepAt (exponent : Int) : Nat := 2 * unitsInOne * tenTo exponent.toNat

theorem widthAt_pos (exponent : Int) : 0 < widthAt exponent := Nat.pow_pos (by decide)

theorem unitsInOne_pos : 0 < unitsInOne := by decide +kernel

theorem stepAt_pos (exponent : Int) : 0 < stepAt exponent :=
  Nat.mul_pos (Nat.mul_pos Nat.two_pos unitsInOne_pos) (Nat.pow_pos (by decide))

theorem tenTo_succ (exponent : Nat) : tenTo (exponent + 1) = 10 * tenTo exponent :=
  Nat.pow_succ'

theorem tenTo_add (first second : Nat) : tenTo (first + second) = tenTo first * tenTo second :=
  Nat.pow_add ..

theorem toNat_succ {exponent : Int} (natural : 0 ≤ exponent) :
    (exponent + 1).toNat = exponent.toNat + 1 := Int.toNat_add natural (by decide)

/-- The next grid is ten times as coarse. -/
theorem stepAt_succ (exponent : Int) :
    stepAt (exponent + 1) * widthAt exponent = 10 * stepAt exponent * widthAt (exponent + 1) := by
  rw [stepAt, stepAt, widthAt, widthAt]
  rcases lt_or_ge exponent 0 with negative | natural
  · have fine : (-exponent).toNat = (-(exponent + 1)).toNat + 1 := by omega
    have none : exponent.toNat = 0 ∧ (exponent + 1).toNat = 0 := by omega
    rw [fine, none.1, none.2, tenTo_succ]
    ring
  · have none : (-exponent).toNat = 0 ∧ (-(exponent + 1)).toNat = 0 := by omega
    rw [toNat_succ natural, none.1, none.2, tenTo_succ]
    ring

/-! ## Intervals -/

namespace Interval

variable {interval : Interval} {tie : TieRule} {exponent : Int} {width point digits : Nat}

/-- How far from its ends the interval is left. -/
def slack (interval : Interval) : Nat := if interval.inclusive then 0 else 1

theorem contains_iff : interval.contains width point = true ↔
    interval.low * width + interval.slack ≤ point ∧
      point + interval.slack ≤ interval.high * width := by
  rw [contains, slack]
  cases interval.inclusive
  · simp only [Bool.false_eq_true, if_false, Bool.and_eq_true, decide_eq_true_eq,
      Nat.lt_iff_add_one_le]
  · simp only [if_true, Bool.and_eq_true, decide_eq_true_eq, Nat.add_zero]

theorem slack_le (interval : Interval) : interval.slack ≤ 1 := by
  rw [slack]
  split <;> decide

/-- The grid point stands for the interval. -/
def Holds (interval : Interval) (decimal : Decimal) : Prop :=
  interval.contains (widthAt decimal.exponent) (decimal.digits * stepAt decimal.exponent) = true

theorem holds_of_onGrid? (found : interval.onGrid? tie exponent = some digits) :
    interval.Holds { digits := digits, exponent := exponent } := by
  simp only [onGrid?] at found
  split at found
  · cases found
  · rename_i below _
    cases found
    exact below
  · rename_i _ above
    cases found
    exact above
  · rename_i below above
    split at found
    · cases found
      exact below
    · split at found
      · cases found
        exact above
      · split at found
        · cases found
          exact above
        · cases found
          rcases Nat.mod_two_eq_zero_or_one
              (interval.middle * widthAt exponent / stepAt exponent) with even | odd
          · have same : interval.middle * widthAt exponent / stepAt exponent +
                interval.middle * widthAt exponent / stepAt exponent % 2 =
                  interval.middle * widthAt exponent / stepAt exponent := by rw [even, Nat.add_zero]
            exact (congrArg (fun point => interval.contains (widthAt exponent)
              (point * stepAt exponent)) same).trans below
          · have next : interval.middle * widthAt exponent / stepAt exponent +
                interval.middle * widthAt exponent / stepAt exponent % 2 =
                  interval.middle * widthAt exponent / stepAt exponent + 1 := by rw [odd]
            exact (congrArg (fun point => interval.contains (widthAt exponent)
              (point * stepAt exponent)) next).trans above

/-- An interval without a point of the grid is not longer than the grid's step. -/
theorem le_stepAt_of_onGrid? (below : interval.low < interval.middle)
    (above : interval.middle < interval.high) (missed : interval.onGrid? tie exponent = none) :
    (interval.high - interval.low) * widthAt exponent ≤ stepAt exponent := by
  have outside : interval.contains (widthAt exponent)
        (interval.middle * widthAt exponent / stepAt exponent * stepAt exponent) = false ∧
      interval.contains (widthAt exponent)
        ((interval.middle * widthAt exponent / stepAt exponent + 1) * stepAt exponent) = false := by
    simp only [onGrid?] at missed
    split at missed
    · rename_i first second
      exact ⟨first, second⟩
    · cases missed
    · cases missed
    · split at missed
      · cases missed
      · split at missed
        · cases missed
        · split at missed <;> cases missed
  have positive := widthAt_pos exponent
  have split := Nat.div_add_mod (interval.middle * widthAt exponent) (stepAt exponent)
  have rest := Nat.mod_lt (interval.middle * widthAt exponent) (stepAt_pos exponent)
  rw [Nat.mul_comm (stepAt exponent)] at split
  obtain ⟨first, second⟩ := outside
  rw [Bool.eq_false_iff, Ne, contains_iff, not_and_or] at first second
  rw [Nat.add_one_mul] at second
  have lower := Nat.mul_lt_mul_of_pos_right below positive
  have upper := Nat.mul_lt_mul_of_pos_right above positive
  have slack := slack_le interval
  rw [Nat.sub_mul]
  omega

/-- The next coarser grid is not much finer than the interval. -/
def Narrow (interval : Interval) (exponent : Int) : Prop :=
  (interval.high - interval.low) * widthAt exponent ≤ 10 * stepAt exponent

theorem narrow_of_onGrid? (below : interval.low < interval.middle)
    (above : interval.middle < interval.high)
    (missed : interval.onGrid? tie (exponent + 1) = none) : interval.Narrow exponent := by
  have short := le_stepAt_of_onGrid? below above missed
  refine Nat.le_of_mul_le_mul_right ?_ (widthAt_pos (exponent + 1))
  calc
    (interval.high - interval.low) * widthAt exponent * widthAt (exponent + 1)
      = (interval.high - interval.low) * widthAt (exponent + 1) * widthAt exponent := by ring
    _ ≤ stepAt (exponent + 1) * widthAt exponent := Nat.mul_le_mul_right _ short
    _ = 10 * stepAt exponent * widthAt (exponent + 1) := stepAt_succ exponent

/-- No interval is as short as the steps of the finest grids. -/
theorem lowest_of_narrow (nonempty : interval.low < interval.high)
    (narrow : interval.Narrow exponent) : -324 ≤ exponent := by
  by_contra fine
  obtain ⟨limit, deep, long⟩ : ∃ limit, limit = 325 ∧ 10 * stepAt 0 < tenTo limit :=
    ⟨325, rfl, Nat.le_of_ble_eq_true (by decide +kernel)⟩
  have finer : exponent.toNat = 0 ∧ limit ≤ (-exponent).toNat := by omega
  have width : tenTo limit ≤ widthAt exponent := Nat.pow_le_pow_right (by decide) finer.2
  have step : stepAt exponent = stepAt 0 := by rw [stepAt, finer.1, stepAt, Int.toNat_zero]
  have some : 1 * widthAt exponent ≤ (interval.high - interval.low) * widthAt exponent :=
    Nat.mul_le_mul_right _ (by omega)
  rw [Narrow, step] at narrow
  omega

/-- What a grid point that stands for an interval is like if the coarser grids have none. -/
structure Represents (interval : Interval) (decimal : Decimal) : Prop where
  holds : interval.Holds decimal
  lowest : -324 ≤ decimal.exponent
  few : decimal.digits * (interval.high - interval.low) ≤ 10 * interval.high

theorem few_of_narrow {decimal : Decimal} (holds : interval.Holds decimal)
    (narrow : interval.Narrow decimal.exponent) :
    decimal.digits * (interval.high - interval.low) ≤ 10 * interval.high := by
  have inside := (contains_iff.1 holds).2
  refine Nat.le_of_mul_le_mul_right ?_ (widthAt_pos decimal.exponent)
  calc
    decimal.digits * (interval.high - interval.low) * widthAt decimal.exponent
      = decimal.digits * ((interval.high - interval.low) * widthAt decimal.exponent) := by ring
    _ ≤ decimal.digits * (10 * stepAt decimal.exponent) := Nat.mul_le_mul_left _ narrow
    _ = 10 * (decimal.digits * stepAt decimal.exponent) := by ring
    _ ≤ 10 * (interval.high * widthAt decimal.exponent) :=
      Nat.mul_le_mul_left _ (Nat.le_trans (Nat.le_add_right _ _) inside)
    _ = 10 * interval.high * widthAt decimal.exponent := by ring

theorem represents_coarsest (tie : TieRule) (below : interval.low < interval.middle)
    (above : interval.middle < interval.high) (steps : Nat) {exponent : Int}
    (last : exponent = steps - 1074) (narrow : interval.Narrow exponent) :
    interval.Represents (interval.coarsest tie steps exponent) ∧
      (interval.coarsest tie steps exponent).exponent ≤ exponent := by
  induction steps generalizing exponent with
  | zero =>
      have lowest := lowest_of_narrow (Nat.lt_trans below above) narrow
      omega
  | succ steps induction =>
      rw [coarsest]
      split
      · rename_i digits found
        have holds := holds_of_onGrid? found
        have lowest := lowest_of_narrow (Nat.lt_trans below above) narrow
        exact ⟨⟨holds, lowest, few_of_narrow holds narrow⟩, Int.le_refl _⟩
      · rename_i missed
        obtain ⟨coarser, rfl⟩ : ∃ finer, exponent = finer + 1 := ⟨exponent - 1, by omega⟩
        rw [Int.add_sub_cancel]
        obtain ⟨represents, lower⟩ :=
          induction (by omega) (narrow_of_onGrid? below above missed)
        exact ⟨represents, by omega⟩

end Interval

/-! ## The decimal of a number -/

section Numbers

variable {tie : TieRule} {lower : Nat}

theorem low_lt_middle (lower : Nat) :
    (Interval.ofMagnitude (lower + 1)).low < (Interval.ofMagnitude (lower + 1)).middle := by
  have less := unitsOf_lt_succ lower
  simp only [Interval.ofMagnitude, Nat.add_sub_cancel]
  omega

theorem middle_lt_high (lower : Nat) :
    (Interval.ofMagnitude (lower + 1)).middle < (Interval.ofMagnitude (lower + 1)).high := by
  have less := unitsOf_lt_succ (lower + 1)
  simp only [Interval.ofMagnitude]
  omega

theorem slack_ofMagnitude (magnitude : Nat) :
    (Interval.ofMagnitude magnitude).slack = magnitude % 2 := by
  simp only [Interval.slack, Interval.ofMagnitude, beq_iff_eq]
  split <;> omega

/-- A magnitude has at most `2 ^ 53` of the steps that follow it. -/
theorem unitsOf_le_steps (magnitude : Nat) :
    unitsOf magnitude ≤ 2 ^ 53 * (unitsOf (magnitude + 1) - unitsOf magnitude) := by
  have fraction : magnitude % 2 ^ 52 < 2 ^ 52 := Nat.mod_lt _ (by decide)
  have step : unitsOf (magnitude + 1) - unitsOf magnitude = 2 ^ (magnitude / 2 ^ 52 - 1) := by
    rw [unitsOf_succ, Nat.add_sub_cancel_left]
  rw [step, unitsOf_eq]
  split
  · rename_i small
    rw [Nat.div_eq_of_lt small]
    omega
  · exact Nat.mul_le_mul_right _ (by omega)

/-- The interval is not shorter than a part in `2 ^ 55` of its end. -/
theorem high_le (lower : Nat) :
    (Interval.ofMagnitude (lower + 1)).high ≤
      2 ^ 55 * ((Interval.ofMagnitude (lower + 1)).high -
        (Interval.ofMagnitude (lower + 1)).low) := by
  have steps := unitsOf_le_steps (lower + 1)
  have less := unitsOf_lt_succ lower
  have next := unitsOf_lt_succ (lower + 1)
  simp only [Interval.ofMagnitude, Nat.add_sub_cancel]
  omega

theorem pow_le_pow_of_ratio {left right above below less more : Nat}
    (ratio : Nat.pow left above ≤ Nat.pow right below) (some : above ≠ 0) (positive : 0 < right)
    (le : less * below ≤ more * above) : Nat.pow left less ≤ Nat.pow right more := by
  refine (Nat.pow_le_pow_iff_left some).1 ?_
  calc
    (left ^ less) ^ above = (left ^ above) ^ less := by rw [← Nat.pow_mul', Nat.pow_mul]
    _ ≤ (right ^ below) ^ less := Nat.pow_le_pow_left ratio less
    _ = right ^ (less * below) := (Nat.pow_mul' right less below).symm
    _ ≤ right ^ (more * above) := Nat.pow_le_pow_right positive le
    _ = (right ^ more) ^ above := Nat.pow_mul right more above

theorem twoTo_le_tenTo {less more : Nat} (le : less * 30103 ≤ more * 100000) :
    twoTo less ≤ tenTo more :=
  pow_le_pow_of_ratio (Nat.le_of_ble_eq_true (by decide +kernel)) (by decide) (by decide) le

theorem tenTo_le_twoTo {less more : Nat} (le : less * 100001 ≤ more * 30103) :
    tenTo less ≤ twoTo more :=
  pow_le_pow_of_ratio (Nat.le_of_ble_eq_true (by decide +kernel)) (by decide) (by decide) le

theorem twoTo_add (first second : Nat) : twoTo (first + second) = twoTo first * twoTo second :=
  Nat.pow_add 2 first second

theorem unitsInOne_eq_twoTo : ∃ bits, bits = 1074 ∧ unitsInOne = twoTo bits :=
  ⟨1074, rfl, by decide +kernel⟩

/-- The power of ten from which the search starts is above the number. -/
theorem ceiling_above (log : Nat) :
    3 * twoTo (log + 1) * widthAt (((log : Int) - 1074) * 30103 / 100000 + 2) ≤
      10 * stepAt (((log : Int) - 1074) * 30103 / 100000 + 2) := by
  obtain ⟨bits, known, units⟩ := unitsInOne_eq_twoTo
  rw [widthAt, stepAt]
  generalize exponent : ((log : Int) - 1074) * 30103 / 100000 + 2 = ceiling
  have double : twoTo (log + 1) = 2 * twoTo log := Nat.pow_succ'
  rcases Nat.lt_or_ge log bits with small | large
  · obtain ⟨rest, rfl⟩ := Nat.exists_eq_add_of_le (Nat.le_of_lt small)
    have fine : tenTo (-ceiling).toNat ≤ twoTo rest := tenTo_le_twoTo (by omega)
    have one : 1 ≤ tenTo ceiling.toNat := Nat.pow_pos (by decide)
    calc
      3 * twoTo (log + 1) * tenTo (-ceiling).toNat ≤ 3 * twoTo (log + 1) * twoTo rest :=
        Nat.mul_le_mul_left _ fine
      _ = 6 * unitsInOne := by
        rw [units, double, twoTo_add]
        ring
      _ ≤ 20 * unitsInOne := Nat.mul_le_mul_right _ (by decide)
      _ = 10 * (2 * unitsInOne * 1) := by ring
      _ ≤ 10 * (2 * unitsInOne * tenTo ceiling.toNat) :=
        Nat.mul_le_mul_left _ (Nat.mul_le_mul_left _ one)
  · obtain ⟨rest, rfl⟩ := Nat.exists_eq_add_of_le large
    have whole : (-ceiling).toNat = 0 := by omega
    have coarse : twoTo rest ≤ tenTo ceiling.toNat := twoTo_le_tenTo (by omega)
    have one : tenTo 0 = 1 := rfl
    calc
      3 * twoTo (bits + rest + 1) * tenTo (-ceiling).toNat = 6 * (unitsInOne * twoTo rest) := by
        rw [whole, double, units, twoTo_add, one]
        ring
      _ ≤ 20 * (unitsInOne * tenTo ceiling.toNat) :=
        Nat.mul_le_mul (by decide) (Nat.mul_le_mul_left _ coarse)
      _ = 10 * (2 * unitsInOne * tenTo ceiling.toNat) := by ring

theorem log2_unitsOf_lt (finite : lower + 1 < infinityMagnitude) :
    (unitsOf (lower + 1)).log2 < 2098 := by
  have positive : unitsOf (lower + 1) ≠ 0 :=
    Nat.ne_of_gt (Nat.lt_of_le_of_lt (Nat.zero_le _) (unitsOf_lt_succ lower))
  obtain ⟨bits, known, limit⟩ : ∃ bits, bits = 2098 ∧ unitsOf infinityMagnitude = twoTo bits :=
    ⟨2098, rfl, by decide +kernel⟩
  have below : (unitsOf (lower + 1)).log2 < bits := by
    rw [Nat.log2_lt positive]
    exact Nat.lt_of_lt_of_eq (unitsOf_strictMono finite) limit
  exact known ▸ below

theorem narrow_ceilingExponent (lower : Nat) :
    (Interval.ofMagnitude (lower + 1)).Narrow (ceilingExponent (lower + 1)) := by
  have below : unitsOf (lower + 1) < twoTo ((unitsOf (lower + 1)).log2 + 1) := Nat.lt_log2_self
  have twice : unitsOf (lower + 1 + 1) ≤ 2 * unitsOf (lower + 1) := by
    rw [unitsOf_succ (lower + 1)]
    have power : 2 ^ ((lower + 1) / 2 ^ 52 - 1) ≤ unitsOf (lower + 1) := by
      rw [unitsOf_eq]
      split
      · rename_i small
        rw [Nat.div_eq_of_lt small]
        exact Nat.le_add_left 1 lower
      · exact Nat.le_mul_of_pos_left _ (by omega)
    omega
  have short : (Interval.ofMagnitude (lower + 1)).high - (Interval.ofMagnitude (lower + 1)).low ≤
      3 * twoTo ((unitsOf (lower + 1)).log2 + 1) := by
    simp only [Interval.ofMagnitude]
    omega
  exact Nat.le_trans (Nat.mul_le_mul_right _ short) (ceiling_above _)

/-- Only zeros are taken off the end of a digit string. -/
theorem trim_spec (limit : Nat) (decimal : Decimal) :
    ∃ zeros ≤ limit, decimal.digits = (trim limit decimal).digits * tenTo zeros ∧
      (trim limit decimal).exponent = decimal.exponent + zeros := by
  induction limit generalizing decimal with
  | zero => exact ⟨0, Nat.le_refl 0, (Nat.mul_one _).symm, (Int.add_zero _).symm⟩
  | succ limit induction =>
      rw [trim]
      split
      · rename_i divisible
        obtain ⟨zeros, few, digits, exponent⟩ :=
          induction { digits := decimal.digits / 10, exponent := decimal.exponent + 1 }
        refine ⟨zeros + 1, Nat.succ_le_succ few, ?_, ?_⟩
        · calc
            decimal.digits = 10 * (decimal.digits / 10) := by omega
            _ = 10 * (_ * tenTo zeros) := congrArg (10 * ·) digits
            _ = _ * tenTo (zeros + 1) := by
              rw [tenTo_succ]
              ring
        · rw [exponent]
          push_cast
          omega
      · exact ⟨0, Nat.zero_le _, (Nat.mul_one _).symm, (Int.add_zero _).symm⟩

/-- The magnitude that a decimal is rounded to. -/
def nearest (decimal : Decimal) : Nat :=
  nearestMagnitude (decimal.digits * unitsInOne * tenTo decimal.exponent.toNat)
    (widthAt decimal.exponent)

theorem nearest_shift (digits : Nat) (exponent : Int) :
    nearest { digits := digits * 10, exponent := exponent } =
      nearest { digits := digits, exponent := exponent + 1 } := by
  simp only [nearest, widthAt]
  rcases lt_or_ge exponent 0 with negative | natural
  · have fine : (-exponent).toNat = (-(exponent + 1)).toNat + 1 := by omega
    have none : exponent.toNat = 0 ∧ (exponent + 1).toNat = 0 := by omega
    have numerator : digits * 10 * unitsInOne * tenTo 0 = digits * unitsInOne * tenTo 0 * 10 := by
      ring
    rw [fine, none.1, none.2, tenTo_succ, numerator, Nat.mul_comm 10]
    exact nearestMagnitude_mul_mul _ _ (by decide)
  · have none : (-exponent).toNat = 0 ∧ (-(exponent + 1)).toNat = 0 := by omega
    have numerator : digits * 10 * unitsInOne * tenTo exponent.toNat =
        digits * unitsInOne * (10 * tenTo exponent.toNat) := by
      ring
    rw [toNat_succ natural, none.1, none.2, tenTo_succ, numerator]

theorem nearest_shift_by (digits : Nat) (exponent : Int) (zeros : Nat) :
    nearest { digits := digits * tenTo zeros, exponent := exponent } =
      nearest { digits := digits, exponent := exponent + zeros } := by
  induction zeros generalizing exponent with
  | zero =>
      have one : tenTo 0 = 1 := rfl
      rw [one, Nat.mul_one, Int.natCast_zero, Int.add_zero]
  | succ zeros induction =>
      have last : digits * tenTo (zeros + 1) = digits * tenTo zeros * 10 := by
        rw [tenTo_succ]
        ring
      have next : exponent + (zeros + 1 : Nat) = exponent + 1 + zeros := by omega
      rw [last, nearest_shift, induction, next]

theorem nearest_of_holds {decimal : Decimal} (finite : lower + 1 < infinityMagnitude)
    (holds : (Interval.ofMagnitude (lower + 1)).Holds decimal) :
    decimal.nearest = lower + 1 := by
  obtain ⟨above, below⟩ := Interval.contains_iff.1 holds
  rw [slack_ofMagnitude] at above below
  have double : 2 * (decimal.digits * unitsInOne * tenTo decimal.exponent.toNat) =
      decimal.digits * stepAt decimal.exponent := by
    rw [stepAt]
    ring
  refine nearestMagnitude_eq_of_between (widthAt_pos _) (Nat.le_of_lt finite) ?_ ?_
  · rw [double]
    exact above
  · rw [double]
    exact below

/-- What the shortest decimal of a magnitude is like. -/
structure Shortest (magnitude : Nat) (decimal : Decimal) : Prop where
  nearest : decimal.nearest = magnitude
  positive : 0 < decimal.digits
  few : decimal.digits ≤ countLimit
  lowest : -324 ≤ decimal.exponent
  highest : decimal.exponent ≤ 315

theorem shortest_spec (tie : TieRule) (finite : lower + 1 < infinityMagnitude) :
    Shortest (lower + 1) (shortest tie (lower + 1)) := by
  have small := log2_unitsOf_lt finite
  have range : -1074 ≤ ceilingExponent (lower + 1) ∧ ceilingExponent (lower + 1) ≤ 312 := by
    rw [ceilingExponent]
    omega
  have start : ceilingExponent (lower + 1) =
      ((ceilingExponent (lower + 1) + 1074).toNat : Int) - 1074 := by
    omega
  obtain ⟨represents, below⟩ := Interval.represents_coarsest tie
    (low_lt_middle lower) (middle_lt_high lower) _ start (narrow_ceilingExponent lower)
  rw [shortest]
  generalize (Interval.ofMagnitude (lower + 1)).coarsest tie _ _ = point at represents below ⊢
  obtain ⟨zeros, few, digits, exponent⟩ := trim_spec 3 point
  have nearest := nearest_of_holds finite represents.holds
  have shifted := nearest_shift_by (trim 3 point).digits point.exponent zeros
  rw [← digits, ← exponent] at shifted
  have some : 0 < point.digits := by
    refine Nat.pos_of_ne_zero fun none => ?_
    have inside := (Interval.contains_iff.1 represents.holds).1
    have low : 0 < (Interval.ofMagnitude (lower + 1)).low := by
      have less := unitsOf_lt_succ lower
      simp only [Interval.ofMagnitude]
      omega
    have positive := Nat.mul_pos low (widthAt_pos point.exponent)
    rw [none, Nat.zero_mul] at inside
    omega
  have limit : point.digits ≤ countLimit := by
    have thick := high_le lower
    have order := Nat.lt_trans (low_lt_middle lower) (middle_lt_high lower)
    have bound : point.digits * ((Interval.ofMagnitude (lower + 1)).high -
        (Interval.ofMagnitude (lower + 1)).low) ≤ 10 * 2 ^ 55 *
          ((Interval.ofMagnitude (lower + 1)).high - (Interval.ofMagnitude (lower + 1)).low) := by
      have few := represents.few
      omega
    have small := Nat.le_of_mul_le_mul_right bound (by omega)
    exact Nat.le_trans small (by decide)
  refine ⟨shifted.symm.trans nearest, ?_, ?_, ?_, ?_⟩
  · refine Nat.pos_of_ne_zero fun none => ?_
    rw [digits, none, Nat.zero_mul] at some
    exact Nat.lt_irrefl 0 some
  · refine Nat.le_trans ?_ limit
    rw [digits]
    exact Nat.le_mul_of_pos_right _ (Nat.pow_pos (by decide))
  · have low := represents.lowest
    omega
  · omega

end Numbers

end CoSimulation.Decimal
