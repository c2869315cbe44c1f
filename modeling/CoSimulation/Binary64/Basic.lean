import CoSimulation.Whole

/-!
# Binary64 numbers

A binary64 number is a sign together with a magnitude, the lower 63 bits of its
pattern.  Magnitudes are ordered like the numbers they stand for, so both the
numeric order and the total order of bit patterns are orders on integers.

Finite magnitudes count in units of `2 ^ (-1074)`, the smallest positive
number.  `unitsOf` gives that count; it is exact and strictly increasing.
-/

namespace CoSimulation

/-- A binary64 number: the sign bit and the 63 bits below it.  All bit patterns
occur, including every NaN of either sign. -/
structure Binary64 where
  negative : Bool
  magnitude : Nat
  magnitude_lt : magnitude < twoTo 63
deriving DecidableEq

namespace Binary64

/-- The magnitude of both infinities; the magnitudes above it are the NaNs. -/
def infinityMagnitude : Nat := 0x7FF0000000000000

/-- The magnitude of the NaN that an operation without a result gives. -/
def quietMagnitude : Nat := 0x7FF8000000000000

/-- The number with the given sign and magnitude; only the lower 63 bits of the
magnitude are kept. -/
def ofParts (negative : Bool) (magnitude : Nat) : Binary64 :=
  { negative := negative
    magnitude := magnitude % twoTo 63
    magnitude_lt := Nat.mod_lt _ (by decide) }

/-- The number with the given 64-bit pattern. -/
def ofBits (bits : Nat) : Binary64 :=
  ofParts (bits / twoTo 63 % 2 == 1) bits

/-- The 64-bit pattern of a number. -/
def toBits (x : Binary64) : Nat :=
  (if x.negative then twoTo 63 else 0) + x.magnitude

def zero : Binary64 := ofParts false 0

def negativeZero : Binary64 := ofParts true 0

def infinity : Binary64 := ofParts false infinityMagnitude

/-- The NaN without a sign, as a written `nan` denotes it. -/
def nan : Binary64 := ofParts false quietMagnitude

/-- The result of an operation on numbers that has no numeric result: the quiet
NaN with the sign bit set. -/
def invalid : Binary64 := ofParts true quietMagnitude

instance : Inhabited Binary64 := ⟨zero⟩

def isNaN (x : Binary64) : Bool := decide (infinityMagnitude < x.magnitude)

def isInfinite (x : Binary64) : Bool := x.magnitude == infinityMagnitude

def isFinite (x : Binary64) : Bool := decide (x.magnitude < infinityMagnitude)

def isZero (x : Binary64) : Bool := x.magnitude == 0

/-- Same number with the other sign, also for zeros and NaNs. -/
def neg (x : Binary64) : Binary64 := { x with negative := !x.negative }

instance : Neg Binary64 := ⟨neg⟩

/-- A NaN operand as an operation passes it on: with the quiet bit set. -/
def quiet (x : Binary64) : Binary64 :=
  if x.magnitude / twoTo 51 % 2 == 1 then x
  else ofParts x.negative (x.magnitude + twoTo 51)

/-! ## Orders -/

/-- Where a number that is not NaN lies on the number line.  Both zeros lie at
the same place. -/
def position (x : Binary64) : Int :=
  if x.negative then -(x.magnitude : Int) else x.magnitude

/-- Where a number lies in the total order of bit patterns.  Different patterns
have different ranks. -/
def rank (x : Binary64) : Int :=
  if x.negative then -(x.magnitude : Int) - 1 else x.magnitude

/-- Numeric comparison; false if a NaN takes part. -/
def lt (x y : Binary64) : Bool :=
  !x.isNaN && !y.isNaN && decide (x.position < y.position)

/-- Numeric comparison; false if a NaN takes part. -/
def le (x y : Binary64) : Bool :=
  !x.isNaN && !y.isNaN && decide (x.position ≤ y.position)

instance : LT Binary64 := ⟨fun x y => lt x y = true⟩

instance : LE Binary64 := ⟨fun x y => le x y = true⟩

instance (x y : Binary64) : Decidable (x < y) :=
  inferInstanceAs (Decidable (lt x y = true))

instance (x y : Binary64) : Decidable (x ≤ y) :=
  inferInstanceAs (Decidable (le x y = true))

/-- A comparison can only hold between numbers. -/
theorem le_iff {x y : Binary64} :
    x ≤ y ↔ x.isNaN = false ∧ y.isNaN = false ∧ x.position ≤ y.position := by
  change le x y = true ↔ _
  simp [le, and_assoc]

theorem lt_iff {x y : Binary64} :
    x < y ↔ x.isNaN = false ∧ y.isNaN = false ∧ x.position < y.position := by
  change lt x y = true ↔ _
  simp [lt, and_assoc]

/-- The total order of bit patterns: NaNs with the sign bit, negative infinity,
the negative numbers, `-0`, `+0`, the positive numbers, infinity, NaNs. -/
def totalCompare (x y : Binary64) : Ordering := compare x.rank y.rank

/-- The larger operand; a NaN yields to a number, and on a tie the first operand
is the result. -/
def max (x y : Binary64) : Binary64 :=
  if x.isNaN then y else if x < y then y else x

/-- The smaller operand; a NaN yields to a number, and on a tie the first operand
is the result. -/
def min (x y : Binary64) : Binary64 :=
  if x.isNaN then y else if y < x then y else x

/-! ## Units -/

/-- The magnitude's size in units of `2 ^ (-1074)`. -/
def unitsOf (magnitude : Nat) : Nat :=
  if magnitude < twoTo 52 then magnitude
  else (twoTo 52 + magnitude % twoTo 52) * twoTo (magnitude / twoTo 52 - 1)

/-- How many units make one. -/
def unitsInOne : Nat := twoTo 1074

/-- A finite number in units. -/
def units (x : Binary64) : Int :=
  if x.negative then -(unitsOf x.magnitude : Int) else unitsOf x.magnitude

end Binary64

end CoSimulation
