import CoSimulation.Binary64.Basic

/-!
# Rounding to the nearest binary64 number

`nearestMagnitude` rounds an exact fraction of units to the nearest magnitude, a
tie to the even one.  Every arithmetic operation, every conversion of an integer
and every reading of a decimal goes through it, so all of them are correctly
rounded.

Neighbouring magnitudes are neighbouring numbers, and a magnitude is even exactly
when its significand is, so the carry into the next exponent and the overflow to
infinity need no case of their own.
-/

namespace CoSimulation.Binary64

/-- A quotient rounded to the nearest integer, a tie to the even one. -/
def divideToEven (numerator denominator : Nat) : Nat :=
  let whole := numerator / denominator
  let rest := 2 * (numerator % denominator)
  if rest < denominator then whole
  else if denominator < rest then whole + 1
  else whole + whole % 2

/-- The magnitude nearest to `numerator / denominator` units.  The significand
keeps 53 bits: larger quotients are measured in steps of a power of two. -/
def nearestMagnitude (numerator denominator : Nat) : Nat :=
  let scale := (numerator / denominator).log2 - 52
  Nat.min (scale * twoTo 52 + divideToEven numerator (denominator * twoTo scale))
    infinityMagnitude

/-- The number nearest to `± numerator / denominator` units. -/
def nearest (negative : Bool) (numerator denominator : Nat) : Binary64 :=
  ofParts negative (nearestMagnitude numerator denominator)

/-- The number nearest to an integer. -/
def ofNat (n : Nat) : Binary64 := nearest false (n * unitsInOne) 1

/-- The number nearest to `digits * 10 ^ exponent`.  Exponents so large or so
small that the result is infinite or zero are decided without the power. -/
def ofDecimal (digits : Nat) (exponent : Int) : Binary64 :=
  if digits = 0 then zero
  else if 310 < exponent then infinity
  else if exponent < -(331 + (digits.log2 : Int)) then zero
  else if 0 ≤ exponent then nearest false (digits * tenTo exponent.toNat * unitsInOne) 1
  else nearest false (digits * unitsInOne) (tenTo (-exponent).toNat)

instance (n : Nat) : OfNat Binary64 n := ⟨ofNat n⟩

instance : OfScientific Binary64 where
  ofScientific digits negative exponent :=
    ofDecimal digits (if negative then -(exponent : Int) else exponent)

theorem zero_le_zero : (0 : Binary64) ≤ 0 := by decide +kernel

/-- Cutting a number off at zero leaves one that is not negative, also for NaN. -/
theorem max_zero_nonneg (x : Binary64) : 0 ≤ x.max 0 := by
  simp only [max]
  split
  · exact zero_le_zero
  · rename_i number
    split
    · exact zero_le_zero
    · rename_i notLess
      have numeric : x.isNaN = false := by simpa using number
      have zero : (0 : Binary64).isNaN = false := (le_iff.1 zero_le_zero).1
      refine le_iff.2 ⟨zero, numeric, ?_⟩
      exact Int.not_lt.1 fun less => notLess (lt_iff.2 ⟨numeric, zero, less⟩)

end CoSimulation.Binary64
