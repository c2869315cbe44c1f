import CoSimulation.Binary64.Arithmetic
import CoSimulation.Decimal.Literal
import CoSimulation.Json.Reader

/-!
# Reading JSON: numbers

A number without fraction and exponent is whole as long as it fits into 64 bits.
Every other number is real: its leading digits, as many as fit into 64 bits, are
taken as an integer and then scaled by a power of ten.  The two steps round
separately, so the result may differ in its last place from the nearest number.
-/

namespace CoSimulation.Json

inductive Numeral where
  | whole (value : Nat)
  | real (value : Binary64)

namespace Numeral

/-- The value of a numeral as a real number. -/
def toReal : Numeral → Binary64
  | whole value => Binary64.ofNat value
  | real value => value

/-- A number divided by a power of ten.  Powers that are no number themselves are
divided off in steps. -/
def divideByPower (x : Binary64) (power : Nat) : Binary64 :=
  if power ≤ 308 then x / Binary64.ofDecimal 1 power
  else if x.isZero then x
  else divideByPower (x / Binary64.ofDecimal 1 308) (power - 308)
termination_by power

/-- An integer scaled by a power of ten, unless the result is too large. -/
def scaled? (significand : Nat) (exponent : Int) : Option Binary64 :=
  let x := Binary64.ofNat significand
  if exponent < 0 then some (divideByPower x exponent.natAbs)
  else if 308 < exponent then if x.isZero then some x else none
  else
    let product := x * Binary64.ofDecimal 1 exponent
    if product.isInfinite then none else some product

/-- The value of a real number that has been read. -/
def finish (negative : Bool) (significand : Nat) (exponent : Int) : Reader Numeral :=
  match scaled? significand exponent with
  | some x => pure (.real (if negative then -x else x))
  | none => Reader.refuse .malformed

/-- Takes digits for as long as the value fits into 64 bits; gives the value, how
many digits were taken, and the rest of the text. -/
def takeDigits (value count : Nat) : List Char → Nat × Nat × List Char
  | [] => (value, count, [])
  | c :: rest =>
      match Decimal.digitValue? c with
      | none => (value, count, c :: rest)
      | some digit =>
          if 10 * value + digit ≤ Binary64.countLimit then
            takeDigits (10 * value + digit) (count + 1) rest
          else (value, count, c :: rest)

/-- Takes all digits in front and tells how many there were. -/
def dropDigits : Reader Nat := fun _ text =>
  .ok ((text.takeWhile Char.isDigit).length, text.dropWhile Char.isDigit)

def isExponentMark (c : Option Char) : Bool := c == some 'e' || c == some 'E'

/-- The largest written exponent that is taken at its value. -/
def exponentLimit : Nat := twoTo 31 - 1

/-- Reads an exponent from its mark on. -/
def exponentPart (negative : Bool) (significand : Nat) (scale : Int) : Reader Numeral := do
  Reader.skip
  let sign ← Reader.peek?
  if sign == some '+' || sign == some '-' then Reader.skip
  let digits := (← get).takeWhile Char.isDigit
  match ← Reader.peek? with
  | none => Reader.refuse .truncated
  | some c =>
      if !c.isDigit then Reader.refuse .malformed
      else
        let _ ← dropDigits
        let written := Decimal.digitsValue digits
        if exponentLimit < written then
          if significand ≠ 0 ∧ sign ≠ some '-' then Reader.refuse .malformed
          else return .real (Binary64.ofParts negative 0)
        else if sign == some '-' then finish negative significand (scale - written)
        else finish negative significand (scale + written)

/-- Reads a fraction from its point on. -/
def fractionPart (negative : Bool) (significand : Nat) (scale : Int) : Reader Numeral := do
  Reader.skip
  let (value, count, rest) := takeDigits significand 0 (← get)
  set rest
  let dropped ← dropDigits
  let next ← Reader.peek?
  if count = 0 ∧ dropped = 0 then
    Reader.refuse (if next.isNone then .truncated else .malformed)
  else if isExponentMark next then exponentPart negative value (scale - count)
  else finish negative value (scale - count)

/-- Reads what follows the digits of the integer part. -/
def tail (negative : Bool) (significand dropped : Nat) : Reader Numeral := do
  let next ← Reader.peek?
  if next == some '.' then fractionPart negative significand dropped
  else if isExponentMark next then exponentPart negative significand dropped
  else if dropped ≠ 0 then finish negative significand dropped
  else if negative then return .real (-(Binary64.ofNat significand))
  else return .whole significand

/-- Reads a number behind its sign.  Its integer part has no superfluous zero. -/
def unsigned (negative : Bool) : Reader Numeral := do
  match ← Reader.peek? with
  | none => Reader.refuse .truncated
  | some c =>
      if c = '0' then
        Reader.skip
        match ← Reader.peek? with
        | some d => if d.isDigit then Reader.refuse .malformed else tail negative 0 0
        | none => tail negative 0 0
      else if c.isDigit then
        let (value, _, rest) := takeDigits 0 0 (← get)
        set rest
        let dropped ← dropDigits
        tail negative value dropped
      else Reader.refuse .malformed

/-- Whether a character can begin a number. -/
def begins (c : Char) : Bool := c == '-' || c.isDigit

/-- Reads a number from its first character on. -/
def read : Reader Numeral := do
  if (← Reader.peek?) == some '-' then
    Reader.skip
    unsigned true
  else unsigned false

end Numeral

end CoSimulation.Json
