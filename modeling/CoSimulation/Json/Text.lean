import CoSimulation.Json.Reader
import CoSimulation.Whole

/-!
# Reading JSON: strings

A string ends at the next quotation mark that is not escaped.  Control characters
must be escaped, and a character beyond the basic plane is escaped as a pair of
surrogates; half a pair is refused.
-/

namespace CoSimulation.Json.Text

/-- The value of a hexadecimal digit. -/
def hexValue? (c : Char) : Option Nat :=
  if c.isDigit then some (c.toNat - '0'.toNat)
  else if 'a' ≤ c ∧ c ≤ 'f' then some (c.toNat - 'a'.toNat + 10)
  else if 'A' ≤ c ∧ c ≤ 'F' then some (c.toNat - 'A'.toNat + 10)
  else none

/-- The value of a string of hexadecimal digits. -/
def hexNumber? (digits : List Char) : Option Nat :=
  digits.foldlM (fun value c => (hexValue? c).map (16 * value + ·)) 0

/-- Reads the four digits of a numeric escape.  The text is too short if fewer than
four bytes are left of it. -/
def codeUnit : Reader Nat := fun _ text =>
  let digits := text.take 4
  if sumOf (digits.map Char.utf8Size) < 4 then .error .truncated
  else if digits.length < 4 then .error .malformed
  else
    match hexNumber? digits with
    | some value => .ok (value, text.drop 4)
    | none => .error .malformed

def isHighSurrogate (unit : Nat) : Bool := decide (0xD800 ≤ unit) && decide (unit ≤ 0xDBFF)

def isLowSurrogate (unit : Nat) : Bool := decide (0xDC00 ≤ unit) && decide (unit ≤ 0xDFFF)

/-- The character that a pair of surrogates stands for. -/
def ofSurrogates (high low : Nat) : Char :=
  Char.ofNat (0x10000 + (high - 0xD800) * 0x400 + (low - 0xDC00))

/-- Takes a character that must follow at once. -/
def exactly (expected : Char) : Reader Unit := Reader.word [expected]

/-- Reads a numeric escape behind its `u`. -/
def numericEscape : Reader Char := do
  let unit ← codeUnit
  if isLowSurrogate unit then Reader.refuse .malformed
  else if isHighSurrogate unit then
    exactly '\\'
    exactly 'u'
    let low ← codeUnit
    if isLowSurrogate low then return ofSurrogates unit low
    else Reader.refuse .malformed
  else return Char.ofNat unit

/-- What a letter stands for behind a backslash. -/
def shortEscape? : Char → Option Char
  | '"' => some '"'
  | '\\' => some '\\'
  | '/' => some '/'
  | 'b' => some '\x08'
  | 'f' => some '\x0c'
  | 'n' => some '\n'
  | 'r' => some '\r'
  | 't' => some '\t'
  | _ => none

/-- Reads an escape behind its backslash.  Numeric escapes are left to `numeric`. -/
def escape {α : Type} (short : Char → α) (numeric : Reader α) : Reader α := do
  match ← Reader.peek? with
  | none => Reader.refuse .truncated
  | some c =>
      Reader.skip
      if c = 'u' then numeric
      else
        match shortEscape? c with
        | some meant => return short meant
        | none => Reader.refuse .malformed

/-- Reads at most `limit` characters up to and including the closing mark; escapes
are left to `escaped`. -/
def body (escaped : Reader Char) : Nat → Reader (List Char)
  | 0 => Reader.refuse .truncated
  | limit + 1 => do
      match ← Reader.peek? with
      | none => Reader.refuse .truncated
      | some c =>
          Reader.skip
          if c = '"' then return []
          else if c = '\\' then
            let meant ← escaped
            return meant :: (← body escaped limit)
          else if c.toNat < 0x20 then Reader.refuse .malformed
          else return c :: (← body escaped limit)

/-- Reads a string behind its opening mark. -/
def read : Reader String := do
  return String.ofList (← body (escape id numericEscape) (← Reader.bound))

/-- Passes over a string behind its opening mark.  Half a pair of surrogates is
passed over like any other escape. -/
def pass : Reader Unit := do
  let _ ← body (escape id (do let _ ← codeUnit; return ' ')) (← Reader.bound)

end CoSimulation.Json.Text
