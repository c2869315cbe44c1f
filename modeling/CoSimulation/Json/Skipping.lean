import CoSimulation.Json.Numeral
import CoSimulation.Json.Text

/-!
# Reading JSON: values of no interest

The value of an unknown field is passed over.  Its form is checked, but its numbers
are not evaluated, and its strings may contain half a pair of surrogates.
-/

namespace CoSimulation.Json.Skipping

/-- Passes over digits, at least one. -/
def digits : Reader Unit := do
  let count ← Numeral.dropDigits
  if count = 0 then Reader.refuse .malformed

/-- Passes over an exponent, if there is one. -/
def exponent : Reader Unit := do
  if Numeral.isExponentMark (← Reader.peek?) then
    Reader.skip
    let sign ← Reader.peek?
    if sign == some '+' || sign == some '-' then Reader.skip
    digits

/-- Passes over a number. -/
def number : Reader Unit := do
  if (← Reader.peek?) == some '-' then Reader.skip
  if (← Reader.peek?) == some '0' then
    Reader.skip
    match ← Reader.peek? with
    | some c => if c.isDigit then Reader.refuse .malformed
    | none => pure ()
  else digits
  if (← Reader.peek?) == some '.' then
    Reader.skip
    digits
  exponent

/-- Passes over an entry of an object whose value is passed over by `value`. -/
def entry (value : Reader Unit) : Reader Unit := do
  Reader.mark '"'
  Text.pass
  Reader.mark ':'
  value

/-- Passes over a value that is nested less than `depth` deep. -/
def nested : Nat → Reader Unit
  | 0 => Reader.refuse .truncated
  | depth + 1 => do
      match ← Reader.next? with
      | none => Reader.refuse .truncated
      | some 'n' => Reader.word ['n', 'u', 'l', 'l']
      | some 't' => Reader.word ['t', 'r', 'u', 'e']
      | some 'f' => Reader.word ['f', 'a', 'l', 's', 'e']
      | some '"' => do
          Reader.skip
          Text.pass
      | some '[' => do
          Reader.skip
          Reader.entries ']' (fun _ => nested depth) ()
      | some '{' => do
          Reader.skip
          Reader.entries '}' (fun _ => entry (nested depth)) ()
      | some c => if Numeral.begins c then number else Reader.refuse .malformed

/-- Passes over a value. -/
def value : Reader Unit := do nested (← Reader.bound)

end CoSimulation.Json.Skipping
