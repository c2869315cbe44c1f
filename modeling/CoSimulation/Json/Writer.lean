import CoSimulation.Decimal.Format
import CoSimulation.Document

/-!
# Writing JSON

Documents as JSON, on one line without blanks or with every part on a line of its
own, indented by two blanks for each level.
-/

namespace CoSimulation.Json.Writer

/-- A hexadecimal digit. -/
def hexDigit (value : Nat) : Char := (Nat.toDigits 16 value).headD '0'

/-- A character inside a string.  Quotation marks, backslashes and control characters
are escaped. -/
def character (c : Char) : List Char :=
  match c with
  | '"' => ['\\', '"']
  | '\\' => ['\\', '\\']
  | '\x08' => ['\\', 'b']
  | '\x0c' => ['\\', 'f']
  | '\n' => ['\\', 'n']
  | '\r' => ['\\', 'r']
  | '\t' => ['\\', 't']
  | c =>
      if c.toNat < 0x20 then
        ['\\', 'u', '0', '0', hexDigit (c.toNat / 16), hexDigit (c.toNat % 16)]
      else [c]

def text (value : String) : List Char :=
  '"' :: (value.toList.flatMap character ++ ['"'])

/-- A number; infinities and NaN have no form in JSON. -/
def real (x : Binary64) : List Char :=
  if x.isFinite then (NumberFormat.json.write x).toList else ['n', 'u', 'l', 'l']

def flag (value : Bool) : List Char :=
  if value then ['t', 'r', 'u', 'e'] else ['f', 'a', 'l', 's', 'e']

def count (value : Nat) : List Char := Nat.toDigits 10 value

mutual

/-- A document on one line. -/
def compact : Document → List Char
  | .absent => ['n', 'u', 'l', 'l']
  | .flag value => flag value
  | .count value => count value
  | .real value => real value
  | .text value => text value
  | .list items => '[' :: (compactItems items ++ [']'])
  | .record fields => '\x7b' :: (compactFields fields ++ ['\x7d'])

def compactItems : List Document → List Char
  | [] => []
  | [item] => compact item
  | item :: rest => compact item ++ ',' :: compactItems rest

def compactFields : List (String × Document) → List Char
  | [] => []
  | [(name, value)] => text name ++ ':' :: compact value
  | (name, value) :: rest => text name ++ ':' :: compact value ++ ',' :: compactFields rest

end

/-- A new line at a level. -/
def newLine (level : Nat) : List Char := '\n' :: List.replicate (2 * level) ' '

mutual

/-- A document over several lines, inside a level. -/
def spread (level : Nat) : Document → List Char
  | .absent => ['n', 'u', 'l', 'l']
  | .flag value => flag value
  | .count value => count value
  | .real value => real value
  | .text value => text value
  | .list [] => ['[', ']']
  | .list items => '[' :: (spreadItems (level + 1) items ++ newLine level ++ [']'])
  | .record [] => ['\x7b', '\x7d']
  | .record fields => '\x7b' :: (spreadFields (level + 1) fields ++ newLine level ++ ['\x7d'])

def spreadItems (level : Nat) : List Document → List Char
  | [] => []
  | [item] => newLine level ++ spread level item
  | item :: rest => newLine level ++ spread level item ++ ',' :: spreadItems level rest

def spreadFields (level : Nat) : List (String × Document) → List Char
  | [] => []
  | [(name, value)] => newLine level ++ text name ++ ':' :: ' ' :: spread level value
  | (name, value) :: rest =>
      newLine level ++ text name ++ ':' :: ' ' :: spread level value ++
        ',' :: spreadFields level rest

end

end CoSimulation.Json.Writer

namespace CoSimulation

/-- The document as JSON on one line. -/
def Document.toJson (document : Document) : String :=
  String.ofList (Json.Writer.compact document)

/-- The document as indented JSON. -/
def Document.toIndentedJson (document : Document) : String :=
  String.ofList (Json.Writer.spread 0 document)

end CoSimulation
