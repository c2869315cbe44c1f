import CoSimulation.Document
import CoSimulation.Json.Skipping
import CoSimulation.Table

/-!
# Reading JSON: values of a given shape

The readers of flags, numbers, strings, lists, records, tables and variants.  They
make JSON a `Format`.

A record is an object with named fields or a list of its fields in order, of which
the last ones may be missing if they need not be there.
-/

namespace CoSimulation.Json

namespace Shape

open Reader

variable {α : Type}

/-- Refuses the next value.  What begins like a number, a string or a word is read
first, and a problem inside it comes before its wrong type. -/
def unexpected : Reader α := do
  match ← next? with
  | none => refuse .truncated
  | some 'n' => do
      word ['n', 'u', 'l', 'l']
      refuse .mismatched
  | some 't' => do
      word ['t', 'r', 'u', 'e']
      refuse .mismatched
  | some 'f' => do
      word ['f', 'a', 'l', 's', 'e']
      refuse .mismatched
  | some '"' => do
      skip
      let _ ← Text.read
      refuse .mismatched
  | some '[' => refuse .mismatched
  | some '{' => refuse .mismatched
  | some c =>
      if Numeral.begins c then do
        let _ ← Numeral.read
        refuse .mismatched
      else refuse .malformed

def flag : Reader Bool := do
  match ← next? with
  | some 't' => do
      word ['t', 'r', 'u', 'e']
      return true
  | some 'f' => do
      word ['f', 'a', 'l', 's', 'e']
      return false
  | _ => unexpected

def numeral : Reader Numeral := do
  match ← next? with
  | some c => if Numeral.begins c then Numeral.read else unexpected
  | none => unexpected

def real : Reader Binary64 := Numeral.toReal <$> numeral

/-- A whole number below a limit. -/
def count (limit : Nat) : Numeral → Reader Nat
  | .whole value => if value < limit then pure value else refuse .mismatched
  | .real _ => refuse .mismatched

def countBelow (limit : Nat) : Reader Nat := do count limit (← numeral)

def text : Reader String := do
  match ← next? with
  | some '"' => do
      skip
      Text.read
  | _ => unexpected

def optional (value : Reader α) : Reader (Option α) := do
  match ← next? with
  | some 'n' => do
      word ['n', 'u', 'l', 'l']
      return none
  | _ => some <$> value

def list (item : Reader α) : Reader (List α) := do
  match ← next? with
  | some '[' => do
      skip
      let items ← entries ']' (fun items => (· :: items) <$> item) []
      return items.reverse
  | _ => unexpected

/-- A record that is being read, and the names of the fields read so far. -/
structure Draft (α : Type) where
  record : α
  given : List String

/-- Reads one named field of an object. -/
def entry (fields : List (Field Reader α)) (draft : Draft α) : Reader (Draft α) := do
  mark '"'
  let name ← Text.read
  match fields.find? (fun field => field.name == name) with
  | none => do
      mark ':'
      Skipping.value
      return draft
  | some field =>
      if draft.given.contains name then refuse .mismatched
      else do
        mark ':'
        let update ← field.update
        return { record := update draft.record, given := name :: draft.given }

/-- The record, if no required field is missing. -/
def complete (fields : List (Field Reader α)) (draft : Draft α) : Reader α :=
  if fields.all (fun field => !field.required || draft.given.contains field.name) then
    pure draft.record
  else refuse .mismatched

/-- Reads the fields of a record in order, up to and including the closing bracket.
Before every field but the first of all stands a comma. -/
def inOrder : Bool → List (Field Reader α) → α → Reader α
  | _, [], record => do
      mark ']'
      return record
  | isFirst, field :: rest, record => do
      match ← next? with
      | none => refuse .truncated
      | some ']' =>
          if (field :: rest).any (fun missing => missing.required) then refuse .mismatched
          else do
            skip
            return record
      | some _ =>
          if isFirst then do
            inOrder false rest ((← field.update) record)
          else do
            mark ','
            inOrder false rest ((← field.update) record)

def record (fields : List (Field Reader α)) (start : α) : Reader α := do
  match ← next? with
  | some '{' => do
      skip
      let draft ← entries '}' (entry fields) { record := start, given := [] }
      complete fields draft
  | some '[' => do
      skip
      inOrder true fields start
  | _ => unexpected

instance : Format Reader where
  flag := flag
  real := real
  countBelow := countBelow
  text := text
  optional := optional
  list := list
  record := record

/-- Reads a number that is the name of a field. -/
def key : Reader Nat := do
  mark '"'
  match ← peek? with
  | some c =>
      if Numeral.begins c then do
        let value ← count (twoTo 64) (← Numeral.read)
        if (← peek?) == some '"' then do
          skip
          return value
        else refuse .malformed
      else refuse .malformed
  | none => refuse .malformed

/-- An object whose names are numbers. -/
def table (value : Reader α) : Reader (Table α) := do
  match ← next? with
  | some '{' => do
      skip
      entries '}'
        (fun table => do
          let name ← key
          mark ':'
          return table.insert name (← value))
        Table.empty
  | _ => unexpected

/-- An object with one field, whose name tells how to read its value. -/
def variant (cases : List (String × Reader α)) : Reader α := do
  match ← next? with
  | none => refuse .truncated
  | some '{' => do
      skip
      mark '"'
      let name ← Text.read
      match cases.lookup name with
      | none => refuse .mismatched
      | some value => do
          mark ':'
          let result ← value
          mark '}'
          return result
  | some '"' => unexpected
  | some _ => refuse .malformed

end Shape

end CoSimulation.Json
