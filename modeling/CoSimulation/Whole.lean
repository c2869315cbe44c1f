/-!
# Whole numbers

Powers of the two bases in which numbers are stored and written, and sums of counts.
-/

namespace CoSimulation

/-- A power of two. -/
abbrev twoTo (exponent : Nat) : Nat := Nat.pow 2 exponent

/-- A power of ten. -/
abbrev tenTo (exponent : Nat) : Nat := Nat.pow 10 exponent

/-- The sum of counts. -/
def sumOf : List Nat → Nat
  | [] => 0
  | first :: rest => first + sumOf rest

end CoSimulation
