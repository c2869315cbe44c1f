import CoSimulation.Binary64.Rounding

/-!
# Shortest decimals

A finite number is written with the fewest digits that still identify it: on the
coarsest decimal grid that has a point in the interval of reals rounding to the
number.  The interval ends half way to the neighbouring numbers and includes its
ends exactly when the magnitude is even.  If both grid points next to the number
lie in the interval, the nearer one is taken.
-/

namespace CoSimulation

/-- Which of two equally near grid points is taken. -/
inductive TieRule where
  | toEven
  | upward
deriving DecidableEq, Repr

/-- A positive decimal `digits * 10 ^ exponent`. -/
structure Decimal where
  digits : Nat
  exponent : Int
deriving DecidableEq, Repr

namespace Decimal

/-- A positive number between the ends of the interval that rounds to it, all
three as counts of half units. -/
structure Interval where
  low : Nat
  middle : Nat
  high : Nat
  inclusive : Bool

/-- The interval of reals that round to a finite positive magnitude. -/
def Interval.ofMagnitude (magnitude : Nat) : Interval :=
  let middle := Binary64.unitsOf magnitude
  { low := Binary64.unitsOf (magnitude - 1) + middle
    middle := 2 * middle
    high := middle + Binary64.unitsOf (magnitude + 1)
    inclusive := magnitude % 2 == 0 }

/-- Whether `point / width` half units lie in the interval. -/
def Interval.contains (interval : Interval) (width point : Nat) : Bool :=
  if interval.inclusive then
    decide (interval.low * width ≤ point) && decide (point ≤ interval.high * width)
  else decide (interval.low * width < point) && decide (point < interval.high * width)

/-- The point of the grid of multiples of `10 ^ exponent` that stands for the
interval's middle, if the grid has a point in the interval.  A half unit is
`width / step` of the grid's step. -/
def Interval.onGrid? (interval : Interval) (tie : TieRule) (exponent : Int) : Option Nat :=
  let width := tenTo (-exponent).toNat
  let step := 2 * Binary64.unitsInOne * tenTo exponent.toNat
  let below := interval.middle * width / step
  let rest := 2 * (interval.middle * width % step)
  let above := below + 1
  match interval.contains width (below * step), interval.contains width (above * step) with
  | false, false => none
  | true, false => some below
  | false, true => some above
  | true, true =>
      if rest < step then some below
      else if step < rest then some above
      else match tie with
        | .upward => some above
        | .toEven => some (below + below % 2)

/-- Looks for a grid with a point in the interval from `exponent` downwards.  At
the last exponent the middle itself is a grid point. -/
def Interval.coarsest (interval : Interval) (tie : TieRule) : Nat → Int → Decimal
  | 0, exponent =>
      { digits := interval.middle * tenTo (-exponent).toNat / (2 * Binary64.unitsInOne)
        exponent := exponent }
  | steps + 1, exponent =>
      match interval.onGrid? tie exponent with
      | some digits => { digits := digits, exponent := exponent }
      | none => interval.coarsest tie steps (exponent - 1)

/-- Takes zeros off the end of a digit string, at most `limit` of them. -/
def trim : Nat → Decimal → Decimal
  | 0, decimal => decimal
  | limit + 1, decimal =>
      if decimal.digits % 10 = 0 then
        trim limit { digits := decimal.digits / 10, exponent := decimal.exponent + 1 }
      else decimal

/-- A decimal exponent whose power of ten is above the magnitude. -/
def ceilingExponent (magnitude : Nat) : Int :=
  ((Binary64.unitsOf magnitude).log2 - 1074 : Int) * 30103 / 100000 + 2

/-- The shortest decimal that reads back as the finite positive magnitude. -/
def shortest (tie : TieRule) (magnitude : Nat) : Decimal :=
  let start := ceilingExponent magnitude
  trim 3 ((Interval.ofMagnitude magnitude).coarsest tie (start + 1074).toNat start)

end Decimal

end CoSimulation
