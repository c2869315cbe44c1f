/-!
# Tables

Finite maps from numbers to values, kept in ascending order of their keys.  The
order makes the representation unique: tables that answer every look-up alike
are equal.
-/

namespace CoSimulation

/-- A finite map from numbers to values.  The keys are strictly ascending. -/
structure Table (α : Type) where
  entries : List (Nat × α)
  ascending : entries.Pairwise (fun left right => left.1 < right.1)

namespace Table

variable {α β : Type}

/-- Look-up in a list of entries. -/
def find? (key : Nat) : List (Nat × α) → Option α
  | [] => none
  | (other, value) :: rest => if key = other then some value else find? key rest

/-- Ordered insertion; an entry with the same key is replaced. -/
def place (key : Nat) (value : α) : List (Nat × α) → List (Nat × α)
  | [] => [(key, value)]
  | (other, present) :: rest =>
      if key = other then (key, value) :: rest
      else if key < other then (key, value) :: (other, present) :: rest
      else (other, present) :: place key value rest

theorem mem_place {key : Nat} {value : α} {entries : List (Nat × α)} {entry : Nat × α}
    (member : entry ∈ place key value entries) :
    entry = (key, value) ∨ entry ∈ entries := by
  induction entries with
  | nil => simpa [place] using member
  | cons head rest induction =>
      obtain ⟨other, present⟩ := head
      simp only [place] at member
      split at member
      · rcases List.mem_cons.1 member with same | tail
        · exact .inl same
        · exact .inr (List.mem_cons_of_mem _ tail)
      · split at member
        · rcases List.mem_cons.1 member with same | tail
          · exact .inl same
          · exact .inr tail
        · rcases List.mem_cons.1 member with same | tail
          · exact .inr (by simp [same])
          · rcases induction tail with same | old
            · exact .inl same
            · exact .inr (List.mem_cons_of_mem _ old)

theorem ascending_place {key : Nat} {value : α} {entries : List (Nat × α)}
    (ascending : entries.Pairwise (fun left right => left.1 < right.1)) :
    (place key value entries).Pairwise (fun left right => left.1 < right.1) := by
  induction entries with
  | nil => simp [place]
  | cons head rest induction =>
      obtain ⟨other, present⟩ := head
      obtain ⟨below, tail⟩ := List.pairwise_cons.1 ascending
      simp only [place]
      split
      · rename_i same
        subst same
        exact List.pairwise_cons.2 ⟨below, tail⟩
      · split
        · rename_i less
          refine List.pairwise_cons.2 ⟨?_, ascending⟩
          intro entry member
          rcases List.mem_cons.1 member with same | old
          · simpa [same] using less
          · exact Nat.lt_trans less (below entry old)
        · rename_i different notLess
          refine List.pairwise_cons.2 ⟨?_, induction tail⟩
          intro entry member
          rcases mem_place member with same | old
          · simp only [same]
            omega
          · exact below entry old

def empty : Table α := { entries := [], ascending := .nil }

instance : Inhabited (Table α) := ⟨empty⟩

def get? (table : Table α) (key : Nat) : Option α := find? key table.entries

def contains (table : Table α) (key : Nat) : Bool := (table.get? key).isSome

/-- The table with `value` at `key` and all other entries as they were. -/
def insert (table : Table α) (key : Nat) (value : α) : Table α :=
  { entries := place key value table.entries
    ascending := ascending_place table.ascending }

/-- The table without an entry at `key`. -/
def erase (table : Table α) (key : Nat) : Table α :=
  { entries := table.entries.filter (fun entry => entry.1 != key)
    ascending := table.ascending.filter _ }

def size (table : Table α) : Nat := table.entries.length

def keys (table : Table α) : List Nat := table.entries.map Prod.fst

def values (table : Table α) : List α := table.entries.map Prod.snd

/-- The table with the same keys and a function of each value. -/
def map (function : α → β) (table : Table α) : Table β :=
  { entries := table.entries.map (fun entry => (entry.1, function entry.2))
    ascending := by
      rw [List.pairwise_map]
      exact table.ascending }

/-- Inserts the entries one after the other; a later entry replaces an earlier one
with the same key. -/
def insertAll (table : Table α) (entries : List (Nat × α)) : Table α :=
  entries.foldl (fun table entry => table.insert entry.1 entry.2) table

def ofList (entries : List (Nat × α)) : Table α := empty.insertAll entries

@[simp] theorem get?_empty (key : Nat) : (empty : Table α).get? key = none := rfl

theorem find?_place (key other : Nat) (value : α) (entries : List (Nat × α)) :
    find? other (place key value entries) =
      if other = key then some value else find? other entries := by
  induction entries with
  | nil => simp [place, find?]
  | cons head rest induction =>
      obtain ⟨present, old⟩ := head
      by_cases same : key = present
      · subst same
        by_cases asked : other = key <;> simp [place, find?, asked]
      · by_cases less : key < present
        · by_cases asked : other = key <;> simp [place, find?, same, less, asked]
        · by_cases asked : other = key
          · subst asked
            simp [place, find?, same, less, induction]
          · simp [place, find?, same, less, asked, induction]

/-- Insertion changes exactly one look-up. -/
theorem get?_insert (table : Table α) (key other : Nat) (value : α) :
    (table.insert key value).get? other =
      if other = key then some value else table.get? other :=
  find?_place key other value table.entries

theorem find?_filter (key other : Nat) (entries : List (Nat × α)) :
    find? other (entries.filter (fun entry => entry.1 != key)) =
      if other = key then none else find? other entries := by
  induction entries with
  | nil => simp [find?]
  | cons head rest induction =>
      obtain ⟨present, old⟩ := head
      by_cases same : present = key
      · subst same
        by_cases asked : other = present <;> simp [find?, asked] at induction ⊢ <;>
          exact induction
      · by_cases asked : other = key
        · subst asked
          simp [find?, same, Ne.symm same] at induction ⊢
          exact induction
        · simp [find?, same, asked] at induction ⊢
          rw [induction]

/-- Removal changes exactly one look-up. -/
theorem get?_erase (table : Table α) (key other : Nat) :
    (table.erase key).get? other = if other = key then none else table.get? other :=
  find?_filter key other table.entries

end Table

/-- A finite set of numbers, in ascending order. -/
abbrev NumberSet := Table Unit

/-- The set of the numbers in a list. -/
def NumberSet.ofNumbers (numbers : List Nat) : NumberSet :=
  Table.ofList (numbers.map (fun number => (number, ())))

end CoSimulation
