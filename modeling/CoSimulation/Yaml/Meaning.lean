import CoSimulation.Decimal.Literal

/-!
# What plain YAML scalars mean

A plain scalar may be a null, a flag, a whole number or a real number.  Digits with a
superfluous zero in front are no whole number.
-/

namespace CoSimulation.Yaml.Meaning

def isNull (text : String) : Bool := ["null", "Null", "NULL", "~"].contains text

def flag? (text : String) : Option Bool :=
  if ["true", "True", "TRUE"].contains text then some true
  else if ["false", "False", "FALSE"].contains text then some false
  else none

/-- Whether the text has digits only, a zero in front and more behind it, apart from a
sign. -/
def isPaddedNumber (text : List Char) : Bool :=
  match (Decimal.splitSign text).2 with
  | '0' :: rest => !rest.isEmpty && rest.all Char.isDigit
  | _ => false

/-- The value of a digit in a base up to sixteen. -/
def digit? (base : Nat) (c : Char) : Option Nat :=
  let value? :=
    if c.isDigit then some (c.toNat - '0'.toNat)
    else if 'a' ≤ c ∧ c ≤ 'f' then some (c.toNat - 'a'.toNat + 10)
    else if 'A' ≤ c ∧ c ≤ 'F' then some (c.toNat - 'A'.toNat + 10)
    else none
  value?.filter (· < base)

/-- The number that digits write in a base, if there are any. -/
def inBase? (base : Nat) (digits : List Char) : Option Nat :=
  if digits.isEmpty then none
  else digits.foldlM (fun value c => (digit? base c).map (base * value + ·)) 0

/-- The base that the first characters of a number name, and the digits behind. -/
def based? : List Char → Option (Nat × List Char)
  | '0' :: 'x' :: digits => some (16, digits)
  | '0' :: 'o' :: digits => some (8, digits)
  | '0' :: 'b' :: digits => some (2, digits)
  | _ => none

def beginsWithSign (text : List Char) : Bool := text.head?.any (fun c => c == '+' || c == '-')

/-- A whole number below a limit, with or without a plus sign. -/
def count? (limit : Nat) (text : List Char) : Option Nat :=
  let unsigned := match text with
    | '+' :: rest => rest
    | _ => text
  let found := match based? unsigned with
    | some (base, digits) => inBase? base digits
    | none =>
        if beginsWithSign unsigned || isPaddedNumber text then none else inBase? 10 unsigned
  found.filter (· < limit)

/-- Whether the text is a negative whole number that is at least `-limit`. -/
def isNegativeCount (limit : Nat) (text : List Char) : Bool :=
  match text with
  | '-' :: rest =>
      let found := match based? rest with
        | some (base, digits) => inBase? base digits
        | none => if isPaddedNumber text then none else inBase? 10 rest
      found.any (fun value => decide (value ≤ limit))
  | _ => false

/-- A real number.  Infinities and NaN have words of their own; a number too large for
its digits is none. -/
def real? (text : String) : Option Binary64 :=
  let unsigned := match text.toList with
    | '+' :: rest => rest
    | all => all
  if beginsWithSign unsigned && text.toList != unsigned then none
  else if [".inf", ".Inf", ".INF"].contains (String.ofList unsigned) then some Binary64.infinity
  else if ["-.inf", "-.Inf", "-.INF"].contains text then some (-Binary64.infinity)
  else if [".nan", ".NaN", ".NAN"].contains text then some Binary64.nan
  else (Decimal.read? (String.ofList unsigned)).filter Binary64.isFinite

/-- Whether a plain text would not be read as a text. -/
def isAmbiguous (text : String) : Bool :=
  let letters := text.toList
  letters.isEmpty || isNull text || (flag? text).isSome || isPaddedNumber letters ||
    (count? (twoTo 128) letters).isSome || isNegativeCount (twoTo 127) letters ||
    (real? text).isSome

end CoSimulation.Yaml.Meaning
