import CoSimulation.Decimal.Shortest

/-!
# Written numbers

A `NumberFormat` collects the choices a text format makes when it writes a number:
which powers of ten are written positionally, how an exponent is introduced, what
a whole number ends in, and the words for the numbers that have no digits.
-/

namespace CoSimulation

/-- The choices of a text format for writing binary64 numbers. -/
structure NumberFormat where
  /-- Positional notation is used while the point stands after more than
  `lowestPoint` digits … -/
  lowestPoint : Int
  /-- … and after at most `highestPoint` digits. -/
  highestPoint : Int
  /-- Written after a whole number. -/
  wholeEnding : String
  /-- Written before an exponent that is not negative. -/
  exponentMark : String
  /-- Written before the digits of a negative exponent. -/
  negativeExponentMark : String
  infinity : String
  nan : String
  tie : TieRule

namespace NumberFormat

/-- Running text: never an exponent, whole numbers without a point. -/
def plain : NumberFormat :=
  { lowestPoint := -400, highestPoint := 400, wholeEnding := ""
    exponentMark := "e", negativeExponentMark := "e-"
    infinity := "inf", nan := "NaN", tie := .upward }

/-- Descriptions of values: a point in every number, exponents from `1e16` up and
below `1e-4`. -/
def descriptive : NumberFormat :=
  { plain with lowestPoint := -4, highestPoint := 16, wholeEnding := ".0" }

/-- YAML documents: a point in every number, exponents from `1e16` up and below
`1e-5`. -/
def yaml : NumberFormat :=
  { descriptive with lowestPoint := -5, infinity := ".inf", nan := ".nan", tie := .toEven }

/-- JSON documents: as in YAML, but the sign of an exponent is always written, and
nothing is written for infinities and NaN. -/
def json : NumberFormat :=
  { yaml with exponentMark := "e+", infinity := "null", nan := "null" }

private def zeros (count : Int) : List Char := List.replicate count.toNat '0'

/-- A decimal with its point after the first `point` digits, which may be none or
more than it has. -/
def positional (format : NumberFormat) (digits : List Char) (point : Int) : List Char :=
  if point ≤ 0 then '0' :: '.' :: zeros (-point) ++ digits
  else if (digits.length : Int) ≤ point then
    digits ++ zeros (point - digits.length) ++ format.wholeEnding.toList
  else digits.take point.toNat ++ '.' :: digits.drop point.toNat

/-- A decimal with one digit before the point and an exponent. -/
def scientific (format : NumberFormat) (digits : List Char) (exponent : Int) : List Char :=
  let mantissa := match digits with
    | first :: second :: rest => first :: '.' :: second :: rest
    | few => few
  let mark := if exponent < 0 then format.negativeExponentMark else format.exponentMark
  mantissa ++ mark.toList ++ Nat.toDigits 10 exponent.natAbs

/-- The digits of a positive decimal in the format's form. -/
def decimal (format : NumberFormat) (number : Decimal) : List Char :=
  let digits := Nat.toDigits 10 number.digits
  let point := digits.length + number.exponent
  if format.lowestPoint < point ∧ point ≤ format.highestPoint then
    format.positional digits point
  else format.scientific digits (point - 1)

/-- The text of a number. -/
def write (format : NumberFormat) (x : Binary64) : String :=
  if x.isNaN then format.nan
  else
    let sign := if x.negative then "-" else ""
    if x.isInfinite then sign ++ format.infinity
    else if x.isZero then sign ++ "0" ++ format.wholeEnding
    else sign ++ String.ofList (format.decimal (Decimal.shortest format.tie x.magnitude))

end NumberFormat

end CoSimulation
