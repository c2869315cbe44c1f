import CoSimulation.Table
import Mathlib.Algebra.BigOperators.Group.List.Basic
import Mathlib.Tactic.Abel

/-!
# Laws of tables

A table is its look-ups: an entry is listed exactly if looking up its key gives its
value, and replacing the value at a key changes the list of entries in one place.
Sums over all entries follow an insertion accordingly.
-/

namespace CoSimulation

namespace Table

variable {α β : Type}

/-! ## Entries and look-ups -/

theorem mem_iff_find? {key : Nat} {value : α} {entries : List (Nat × α)}
    (ascending : entries.Pairwise (fun left right => left.1 < right.1)) :
    (key, value) ∈ entries ↔ find? key entries = some value := by
  induction entries with
  | nil => simp [find?]
  | cons head rest induction =>
      obtain ⟨other, present⟩ := head
      obtain ⟨below, tail⟩ := List.pairwise_cons.1 ascending
      by_cases same : key = other
      · subst same
        have absent : (key, value) ∉ rest := fun member =>
          Nat.lt_irrefl key (below (key, value) member)
        simp [find?, absent, eq_comm]
      · simp [find?, same, induction tail]

theorem mem_entries {table : Table α} {key : Nat} {value : α} :
    (key, value) ∈ table.entries ↔ table.get? key = some value :=
  mem_iff_find? table.ascending

theorem mem_values {table : Table α} {value : α} :
    value ∈ table.values ↔ ∃ key, table.get? key = some value := by
  constructor
  · intro member
    obtain ⟨⟨key, listed⟩, present, rfl⟩ := List.mem_map.1 member
    exact ⟨key, mem_entries.1 present⟩
  · rintro ⟨key, found⟩
    exact List.mem_map.2 ⟨(key, value), mem_entries.2 found, rfl⟩

theorem mem_keys {table : Table α} {key : Nat} :
    key ∈ table.keys ↔ ∃ value, table.get? key = some value := by
  constructor
  · intro member
    obtain ⟨⟨listed, value⟩, present, rfl⟩ := List.mem_map.1 member
    exact ⟨value, mem_entries.1 present⟩
  · rintro ⟨value, found⟩
    exact List.mem_map.2 ⟨(key, value), mem_entries.2 found, rfl⟩

theorem nodup_keys (table : Table α) : table.keys.Nodup := by
  rw [keys, List.nodup_iff_pairwise_ne, List.pairwise_map]
  exact table.ascending.imp Nat.ne_of_lt

theorem contains_iff {table : Table α} {key : Nat} :
    table.contains key = true ↔ key ∈ table.keys := by
  rw [mem_keys, contains, Option.isSome_iff_exists]

/-- Tables with the same entries are the same. -/
theorem ext_entries {left right : Table α} (same : left.entries = right.entries) :
    left = right := by
  cases left
  cases right
  simp only at same
  subst same
  rfl

theorem find?_map (function : α → β) (key : Nat) (entries : List (Nat × α)) :
    find? key (entries.map fun entry => (entry.1, function entry.2)) =
      (find? key entries).map function := by
  induction entries with
  | nil => rfl
  | cons head rest induction =>
      by_cases same : key = head.1
      · simp [find?, same]
      · simp [find?, same, induction]

@[simp] theorem get?_map (table : Table α) (function : α → β) (key : Nat) :
    (table.map function).get? key = (table.get? key).map function :=
  find?_map function key table.entries

@[simp] theorem values_map (table : Table α) (function : α → β) :
    (table.map function).values = table.values.map function := by
  simp [values, map]

@[simp] theorem get?_insert_self (table : Table α) (key : Nat) (value : α) :
    (table.insert key value).get? key = some value := by
  simp [get?_insert]

theorem of_get?_insert {table : Table α} {key other : Nat} {value found : α}
    (present : (table.insert key value).get? other = some found) :
    (other = key ∧ found = value) ∨ (other ≠ key ∧ table.get? other = some found) := by
  rw [get?_insert] at present
  split at present
  · rename_i same
    exact .inl ⟨same, (Option.some.inj present).symm⟩
  · rename_i different
    exact .inr ⟨different, present⟩

theorem get?_insertAll (table : Table α) (keys : List Nat) (value : α) (key : Nat) :
    (table.insertAll (keys.map fun key => (key, value))).get? key =
      if key ∈ keys then some value else table.get? key := by
  induction keys generalizing table with
  | nil => simp [insertAll]
  | cons head rest induction =>
      have tail := induction (table.insert head value)
      simp only [insertAll] at tail
      simp only [insertAll, List.map_cons, List.foldl_cons, tail, get?_insert, List.mem_cons]
      by_cases member : key ∈ rest <;> simp [member]

theorem insertAll_append (table : Table α) (early late : List (Nat × α)) :
    table.insertAll (early ++ late) = (table.insertAll early).insertAll late :=
  List.foldl_append

theorem of_get?_insertAll {table : Table α} {entries : List (Nat × α)} {key : Nat} {value : α}
    (found : (table.insertAll entries).get? key = some value) :
    (key, value) ∈ entries ∨ table.get? key = some value := by
  induction entries generalizing table with
  | nil => exact .inr found
  | cons head rest induction =>
      rcases induction found with later | before
      · exact .inl (List.mem_cons_of_mem _ later)
      · rw [get?_insert] at before
        split at before
        · rename_i same
          cases before
          exact .inl (same ▸ List.mem_cons_self)
        · exact .inr before

theorem get?_insertAll_of_not_mem {table : Table α} {entries : List (Nat × α)} {key : Nat}
    (absent : key ∉ entries.map Prod.fst) :
    (table.insertAll entries).get? key = table.get? key := by
  induction entries generalizing table with
  | nil => rfl
  | cons head rest induction =>
      simp only [List.map_cons, List.mem_cons, not_or] at absent
      apply (induction absent.2).trans
      rw [get?_insert, if_neg absent.1]

/-- Of entries with different keys none replaces another. -/
theorem get?_insertAll_of_mem {table : Table α} {entries : List (Nat × α)} {key : Nat}
    {value : α} (distinct : (entries.map Prod.fst).Nodup) (member : (key, value) ∈ entries) :
    (table.insertAll entries).get? key = some value := by
  induction entries generalizing table with
  | nil => cases member
  | cons head rest induction =>
      obtain ⟨fresh, tail⟩ := List.nodup_cons.1 distinct
      rcases List.mem_cons.1 member with same | later
      · subst same
        exact (get?_insertAll_of_not_mem fresh).trans (get?_insert_self _ _ _)
      · exact induction tail later

/-! ## Insertion and removal in the list of entries -/

theorem place_of_absent {key : Nat} {value : α} {entries : List (Nat × α)}
    (absent : find? key entries = none) :
    (place key value entries).Perm ((key, value) :: entries) := by
  induction entries with
  | nil => exact List.Perm.refl _
  | cons head rest induction =>
      obtain ⟨other, present⟩ := head
      by_cases same : key = other
      · simp [find?, same] at absent
      · rw [find?, if_neg same] at absent
        rw [place, if_neg same]
        split
        · exact List.Perm.refl _
        · exact (List.Perm.cons _ (induction absent)).trans (List.Perm.swap _ _ _)

theorem place_of_present {key : Nat} {old value : α} {entries : List (Nat × α)}
    (ascending : entries.Pairwise (fun left right => left.1 < right.1))
    (present : find? key entries = some old) :
    ∃ before after, entries = before ++ (key, old) :: after ∧
      place key value entries = before ++ (key, value) :: after := by
  induction entries with
  | nil => simp [find?] at present
  | cons head rest induction =>
      obtain ⟨other, stored⟩ := head
      obtain ⟨below, tail⟩ := List.pairwise_cons.1 ascending
      by_cases same : key = other
      · subst same
        rw [find?, if_pos rfl, Option.some.injEq] at present
        subst present
        exact ⟨[], rest, rfl, by simp [place]⟩
      · rw [find?, if_neg same] at present
        have later : other < key := below _ ((mem_iff_find? tail).2 present)
        obtain ⟨before, after, listed, placed⟩ := induction tail present
        refine ⟨(other, stored) :: before, after, by simp [listed], ?_⟩
        rw [place, if_neg same, if_neg (Nat.not_lt.2 (Nat.le_of_lt later)), placed]
        rfl

theorem entries_insert_of_absent {table : Table α} {key : Nat} (value : α)
    (absent : table.get? key = none) :
    (table.insert key value).entries.Perm ((key, value) :: table.entries) :=
  place_of_absent absent

/-- Replacing a value leaves all other entries in their places. -/
theorem entries_insert_of_present {table : Table α} {key : Nat} {old : α} (value : α)
    (present : table.get? key = some old) :
    ∃ before after, table.entries = before ++ (key, old) :: after ∧
      (table.insert key value).entries = before ++ (key, value) :: after :=
  place_of_present table.ascending present

theorem entries_erase {table : Table α} {key : Nat} {value : α}
    (present : table.get? key = some value) :
    table.entries.Perm ((key, value) :: (table.erase key).entries) := by
  obtain ⟨before, after, listed, -⟩ := entries_insert_of_present value present
  have ascending := table.ascending
  rw [listed, List.pairwise_append] at ascending
  have apartBefore : ∀ entry ∈ before, (entry.1 != key) = true := fun entry member => by
    have less := ascending.2.2 entry member (key, value) (by simp)
    simpa using Nat.ne_of_lt less
  have apartAfter : ∀ entry ∈ after, (entry.1 != key) = true := fun entry member => by
    have less := (List.pairwise_cons.1 ascending.2.1).1 entry member
    simpa using Nat.ne_of_gt less
  have erased : (table.erase key).entries = before ++ after := by
    simp [erase, listed, List.filter_append, List.filter_eq_self.2 apartBefore,
      List.filter_eq_self.2 apartAfter]
  rw [listed, erased]
  exact List.perm_middle

/-- Replacing a value by one with the same image does not change the image. -/
theorem map_insert {table : Table α} {key : Nat} {old value : α} {function : α → β}
    (present : table.get? key = some old) (same : function value = function old) :
    (table.insert key value).map function = table.map function := by
  obtain ⟨before, after, listed, replaced⟩ :=
    entries_insert_of_present value present
  apply ext_entries
  simp [map, listed, replaced, same]

/-- The first value that is wanted is the one under the least key. -/
theorem find?_values_eq_some {table : Table α} {wanted : α → Bool} {value : α}
    (first : table.values.find? wanted = some value) :
    ∃ key, table.get? key = some value ∧
      ∀ other later, table.get? other = some later → wanted later = true → key ≤ other := by
  rw [values, List.find?_map, Option.map_eq_some_iff] at first
  obtain ⟨⟨key, listed⟩, found, rfl⟩ := first
  obtain ⟨-, before, after, split, passed⟩ := List.find?_eq_some_iff_append.1 found
  refine ⟨key, mem_entries.1 (List.mem_of_find?_eq_some found), fun other later present fits => ?_⟩
  have ascending := table.ascending
  have member := mem_entries.2 present
  rw [split] at ascending member
  rcases List.mem_append.1 member with early | late
  · have missed := passed _ early
    simp [fits] at missed
  · rcases List.mem_cons.1 late with same | beyond
    · cases same
      exact Nat.le_refl key
    · have above := (List.pairwise_append.1 ascending).2.1
      exact Nat.le_of_lt ((List.pairwise_cons.1 above).1 _ beyond)

/-! ## Sums over the entries -/

def sum {M : Type} [AddCommMonoid M] (quantity : Nat → α → M) (table : Table α) : M :=
  (table.entries.map fun entry => quantity entry.1 entry.2).sum

section Sums

variable {M : Type} [AddCommMonoid M] {quantity : Nat → α → M}

/-- Replacing a value exchanges its share of the sum. -/
theorem sum_insert_of_present {table : Table α} {key : Nat} {old value : α}
    (present : table.get? key = some old) :
    (table.insert key value).sum quantity + quantity key old =
      table.sum quantity + quantity key value := by
  obtain ⟨before, after, listed, replaced⟩ :=
    entries_insert_of_present value present
  simp only [sum, listed, replaced, List.map_append, List.map_cons, List.sum_append,
    List.sum_cons]
  abel

theorem sum_map (table : Table β) (function : β → α) :
    (table.map function).sum quantity =
      table.sum fun key value => quantity key (function value) := by
  simp [sum, map, Function.comp_def]

theorem sum_congr {table : Table α} {left right : Nat → α → M}
    (same : ∀ key value, table.get? key = some value → left key value = right key value) :
    table.sum left = table.sum right := by
  unfold sum
  congr 1
  apply List.map_congr_left
  intro entry member
  exact same entry.1 entry.2 (mem_entries.1 member)

theorem sum_eq_zero {table : Table α}
    (nothing : ∀ key value, table.get? key = some value → quantity key value = 0) :
    table.sum quantity = 0 := by
  apply List.sum_eq_zero
  intro share listed
  obtain ⟨entry, member, rfl⟩ := List.mem_map.1 listed
  exact nothing entry.1 entry.2 (mem_entries.1 member)

theorem sum_add (table : Table α) (left right : Nat → α → M) :
    (table.sum fun key value => left key value + right key value) =
      table.sum left + table.sum right :=
  List.sum_map_add

end Sums

end Table

end CoSimulation
