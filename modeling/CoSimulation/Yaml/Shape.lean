import CoSimulation.Document
import CoSimulation.Yaml.Meaning
import CoSimulation.Yaml.Node

/-!
# Reading YAML: values of a given shape

The readers of flags, numbers, texts, lists and records, which make YAML a `Format`.
Flags and numbers are written plainly.  A list or record that is not written at all
is empty; a null in its place is refused.

Aliases are followed where a value is read, and not in what is passed over.  A
document of a given size allows only so many of them to be followed.
-/

namespace CoSimulation.Yaml

/-- Takes values out of a graph.  The state is how many aliases may still be followed. -/
abbrev Visit : Type → Type := ReaderT Graph (StateT Nat Option)

/-- Takes a value from a node of a graph. -/
def Reader (α : Type) : Type := Node → Visit α

namespace Shape

variable {α : Type}

def refuse : Visit α := fun _ _ => none

instance : Functor Reader where
  map function reader := fun node => function <$> reader node

/-- The node itself, or the one that it stands for if it is a reference. -/
def follow : Node → Visit Node
  | .reference number => do
      match ← get, (← read).marked.lookup number with
      | left + 1, some node => do
          set left
          return node
      | _, _ => refuse
  | node => return node

/-- The full text of a tag of the core schema. -/
def coreTag (name : String) : String := "tag:yaml.org,2002:" ++ name

/-- The text of a scalar that is written plainly, or as a literal block with a tag
that tells its type. -/
def plainText? (type : String) : Node → Option String
  | .scalar .plain _ text => some text
  | .scalar .literal (some tag) text => if tag = coreTag type then some text else none
  | _ => none

/-- Reads a scalar of a type by its text. -/
def scalar (type : String) (meaning : String → Option α) : Reader α := fun node => do
  match (plainText? type (← follow node)).bind meaning with
  | some value => return value
  | none => refuse

def flag : Reader Bool := scalar "bool" Meaning.flag?

def real : Reader Binary64 := scalar "float" Meaning.real?

def countBelow (limit : Nat) : Reader Nat :=
  scalar "int" (fun text => Meaning.count? limit text.toList)

def text : Reader String := fun node => do
  match ← follow node with
  | .scalar _ _ text => return text
  | _ => refuse

/-- Whether nothing is written. -/
def isNothing : Node → Bool
  | .scalar .plain _ text => text.isEmpty
  | _ => false

def optional (value : Reader α) : Reader (Option α) := fun node => do
  let node ← follow node
  match node with
  | .scalar .plain none text =>
      if text.isEmpty || Meaning.isNull text then return none else some <$> value node
  | .scalar .plain (some tag) text =>
      if tag = coreTag "null" then if Meaning.isNull text then return none else refuse
      else some <$> value node
  | _ => some <$> value node

def list (item : Reader α) : Reader (List α) := fun node => do
  match ← follow node with
  | .sequence items => items.mapM item
  | node => if isNothing node then return [] else refuse

/-- Takes the entries of a mapping into a record; `given` are the fields taken so
far. -/
def entries (fields : List (Field Reader α)) (given : List String) (record : α) :
    List (Node × Node) → Visit (List String × α)
  | [] => return (given, record)
  | (key, value) :: rest => do
      let name ← text key
      match fields.find? (fun field => field.name == name) with
      | none => entries fields given record rest
      | some field =>
          if given.contains name then refuse
          else
            let update ← field.update value
            entries fields (name :: given) (update record) rest

/-- The record, if no required field is missing. -/
def complete (fields : List (Field Reader α)) : List String × α → Visit α
  | (given, record) =>
      if fields.all (fun field => !field.required || given.contains field.name) then
        return record
      else refuse

def record (fields : List (Field Reader α)) (start : α) : Reader α := fun node => do
  match ← follow node with
  | .mapping found => complete fields (← entries fields [] start found)
  | node => if isNothing node then complete fields ([], start) else refuse

instance : Format Reader where
  flag := flag
  real := real
  countBelow := countBelow
  text := text
  optional := optional
  list := list
  record := record

end Shape

/-- How many aliases may be followed for every mark of a document. -/
def aliasesPerMark : Nat := 100

/-- Reads a whole text. -/
def Reader.read {α : Type} (reader : Reader α) (text : String) : Option α := do
  let graph ← Graph.ofText? text
  let (value, _) ← reader graph.root graph (aliasesPerMark * graph.root.size)
  return value

end CoSimulation.Yaml
