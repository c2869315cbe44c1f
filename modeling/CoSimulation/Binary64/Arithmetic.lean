import CoSimulation.Binary64.Rounding

/-!
# Binary64 arithmetic

The four operations in units: finite results are exact fractions of units,
rounded once.  A NaN operand is passed on, the first one if both are NaN; an
operation without a numeric result gives `invalid`.
-/

namespace CoSimulation.Binary64

/-- What an operation makes of its NaN operands, if it has any. -/
def passNaN (x y : Binary64) (otherwise : Binary64) : Binary64 :=
  if x.isNaN then x.quiet else if y.isNaN then y.quiet else otherwise

/-- The number nearest to an integer count of units; `zeroSign` is the sign of a
zero. -/
def ofUnits (count : Int) (zeroSign : Bool) : Binary64 :=
  if count = 0 then ofParts zeroSign 0
  else nearest (decide (count < 0)) count.natAbs 1

/-- The sum of two numbers, neither of them NaN. -/
def sum (x y : Binary64) : Binary64 :=
  if x.isInfinite then
    if y.isInfinite && x.negative != y.negative then invalid else x
  else if y.isInfinite then y
  else ofUnits (x.units + y.units) (x.negative && y.negative)

def add (x y : Binary64) : Binary64 := passNaN x y (sum x y)

def sub (x y : Binary64) : Binary64 := passNaN x y (sum x (-y))

/-- The product of two numbers, neither of them NaN. -/
def product (x y : Binary64) : Binary64 :=
  let negative := x.negative != y.negative
  if x.isInfinite || y.isInfinite then
    if x.isZero || y.isZero then invalid else ofParts negative infinityMagnitude
  else nearest negative (unitsOf x.magnitude * unitsOf y.magnitude) unitsInOne

def mul (x y : Binary64) : Binary64 := passNaN x y (product x y)

/-- The quotient of two numbers, neither of them NaN. -/
def quotient (x y : Binary64) : Binary64 :=
  let negative := x.negative != y.negative
  if x.isInfinite then
    if y.isInfinite then invalid else ofParts negative infinityMagnitude
  else if y.isInfinite then ofParts negative 0
  else if y.isZero then
    if x.isZero then invalid else ofParts negative infinityMagnitude
  else nearest negative (unitsOf x.magnitude * unitsInOne) (unitsOf y.magnitude)

def div (x y : Binary64) : Binary64 := passNaN x y (quotient x y)

instance : Add Binary64 := ⟨add⟩

instance : Sub Binary64 := ⟨sub⟩

instance : Mul Binary64 := ⟨mul⟩

instance : Div Binary64 := ⟨div⟩

/-- The number cut to the range from `low` to `high`; NaN stays. -/
def clamp (x low high : Binary64) : Binary64 :=
  let raised := if x < low then low else x
  if high < raised then high else raised

/-- The largest 64-bit count. -/
def countLimit : Nat := twoTo 64 - 1

/-- The integer part as a 64-bit count: 0 for NaN and negative numbers, the
largest count for numbers beyond it. -/
def toCount (x : Binary64) : Nat :=
  if x.isNaN || x.negative then 0
  else if x.isInfinite then countLimit
  else Nat.min (unitsOf x.magnitude / unitsInOne) countLimit

/-- Sum of a list from left to right.  It starts at `-0`, the neutral element, so
the empty sum is `-0`. -/
def total (xs : List Binary64) : Binary64 := xs.foldl (· + ·) negativeZero

end CoSimulation.Binary64
