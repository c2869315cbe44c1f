import CoSimulation.Binary64.Arithmetic

/-!
# Documents

A document is a tree of records, lists and plain values.  Reports and saved
configurations are documents; the text formats write them.

`Format` is the other direction: what a text format has to read so that records
can be described once, field by field, for all formats.
-/

namespace CoSimulation

inductive Document where
  /-- Nothing is there. -/
  | absent
  | flag (value : Bool)
  | count (value : Nat)
  | real (value : Binary64)
  | text (value : String)
  | list (items : List Document)
  /-- Named parts in a fixed order. -/
  | record (fields : List (String × Document))

namespace Document

instance : Inhabited Document := ⟨absent⟩

/-- A measurement; there is nothing to show for infinities and NaN. -/
def measured (x : Binary64) : Document := if x.isFinite then real x else absent

/-- A value that may be missing. -/
def optional {α : Type} (document : α → Document) : Option α → Document
  | some value => document value
  | none => absent

end Document

/-- A field of a record of type `α` as a text format reads it: its name, whether it
must be there, and what its value does to the record.  `read β` reads a `β`. -/
structure Field (read : Type → Type) (α : Type) where
  name : String
  required : Bool
  update : read (α → α)

/-- What a text format can read. -/
class Format (read : Type → Type) extends Functor read where
  flag : read Bool
  real : read Binary64
  /-- A whole number below a limit. -/
  countBelow : Nat → read Nat
  text : read String
  optional {α : Type} : read α → read (Option α)
  list {α : Type} : read α → read (List α)
  /-- A record, from the record that it is if no field is there.  Unknown fields are
  passed over; a field given twice is refused, and so is a record that lacks a
  required field. -/
  record {α : Type} : List (Field read α) → α → read α

namespace Format

variable {read : Type → Type} [Format read]

/-- A number that fits into 32 bits. -/
def count32 : read Nat := countBelow (twoTo 32)

/-- A number that fits into 64 bits. -/
def count64 : read Nat := countBelow (twoTo 64)

end Format

namespace Field

variable {read : Type → Type} [Format read] {α β : Type}

/-- A field that must be there. -/
def needed (name : String) (value : read β) (set : β → α → α) : Field read α :=
  { name := name, required := true, update := set <$> value }

/-- A field that may be missing. -/
def defaulted (name : String) (value : read β) (set : β → α → α) : Field read α :=
  { name := name, required := false, update := set <$> value }

end Field

end CoSimulation
