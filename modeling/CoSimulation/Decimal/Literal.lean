import CoSimulation.Binary64.Rounding

/-!
# Decimal literals

The usual spelling of a number: an optional sign, then digits with an optional
point and an optional exponent, or one of the words for infinity and NaN.  The
value is correctly rounded.
-/

namespace CoSimulation.Decimal

/-- The value of a digit, if the character is one. -/
def digitValue? (c : Char) : Option Nat :=
  if c.isDigit then some (c.toNat - '0'.toNat) else none

/-- The value of a string of digits. -/
def digitsValue (digits : List Char) : Nat :=
  digits.foldl (fun value c => 10 * value + (c.toNat - '0'.toNat)) 0

/-- Splits off a sign; true if it is a minus. -/
def splitSign : List Char → Bool × List Char
  | '-' :: rest => (true, rest)
  | '+' :: rest => (false, rest)
  | text => (false, text)

/-- Reads an exponent, which must be the rest of the text.  No text is the
exponent 0. -/
def readExponent? : List Char → Option Int
  | [] => some 0
  | mark :: rest =>
      if mark = 'e' ∨ mark = 'E' then
        let (negative, digits) := splitSign rest
        if digits.isEmpty || !digits.all Char.isDigit then none
        else
          let value : Int := digitsValue digits
          some (if negative then -value else value)
      else none

/-- Reads an unsigned decimal: digits with an optional point, at least one digit,
and an optional exponent. -/
def readUnsigned? (text : List Char) : Option Binary64 :=
  let whole := text.takeWhile Char.isDigit
  let afterWhole := text.dropWhile Char.isDigit
  let (fraction, rest) := match afterWhole with
    | '.' :: more => (more.takeWhile Char.isDigit, more.dropWhile Char.isDigit)
    | _ => ([], afterWhole)
  if whole.isEmpty && fraction.isEmpty then none
  else do
    let exponent ← readExponent? rest
    some (Binary64.ofDecimal (digitsValue (whole ++ fraction)) (exponent - fraction.length))

/-- Reads a number; words are read in any mixture of cases. -/
def read? (text : String) : Option Binary64 :=
  let (negative, unsigned) := splitSign text.toList
  let word := String.ofList (unsigned.map Char.toLower)
  let magnitude? :=
    if word = "inf" ∨ word = "infinity" then some Binary64.infinity
    else if word = "nan" then some Binary64.nan
    else readUnsigned? unsigned
  magnitude?.map fun x => if negative then -x else x

end CoSimulation.Decimal
