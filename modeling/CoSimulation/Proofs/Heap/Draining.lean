import CoSimulation.Proofs.Heap.Order

/-!
# Draining cuts off a prefix

A drain takes due items off the top until it meets one that is not due, so the items have
an order, sorted by `precedes`, of which a drain hands out the longest due prefix.  If every
item is due that precedes a due one, this prefix is the set of all due items.
-/

namespace CoSimulation

/-! ## Prefixes of sorted lists -/

section Prefix

variable {α : Type} {due : α → Bool} {items : List α}
  (downward : items.Pairwise fun earlier later => due later = true → due earlier = true)
include downward

theorem takeWhile_eq_filter : items.takeWhile due = items.filter due := by
  induction items with
  | nil => rfl
  | cons item items induction =>
      obtain ⟨first, rest⟩ := List.pairwise_cons.1 downward
      by_cases ripe : due item = true
      · rw [List.takeWhile_cons_of_pos ripe, List.filter_cons_of_pos ripe, induction rest]
      · have none : items.filter due = [] :=
          List.filter_eq_nil_iff.2 fun later member dueLater => ripe (first later member dueLater)
        rw [List.takeWhile_cons_of_neg ripe, List.filter_cons_of_neg ripe, none]

theorem dropWhile_eq_filter : items.dropWhile due = items.filter fun item => !due item := by
  induction items with
  | nil => rfl
  | cons item items induction =>
      obtain ⟨first, rest⟩ := List.pairwise_cons.1 downward
      by_cases ripe : due item = true
      · rw [List.dropWhile_cons_of_pos ripe, List.filter_cons_of_neg (by simpa using ripe),
          induction rest]
      · have all : (item :: items).filter (fun item => !due item) = item :: items := by
          apply List.filter_eq_self.2
          intro later member
          rcases List.mem_cons.1 member with rfl | old
          · simpa using ripe
          · simpa using fun dueLater => ripe (first later old dueLater)
        rw [List.dropWhile_cons_of_neg ripe, all]

end Prefix

namespace Heap

variable {α : Type} {precedes : α → α → Bool} {due : α → Bool} {heap : Heap α}

theorem pop?_eq_none (nothing : heap.pop? precedes = none) : heap = empty := by
  rw [pop?] at nothing
  split at nothing
  · exact takeLast?_eq_none ‹_›
  · cases nothing
  · cases nothing

/-- A drain that may take all items stops for want of a due one. -/
theorem drain_stops (limit : Nat) (enough : heap.size ≤ limit) :
    (heap.drain precedes due limit).2 = empty ∨
      ∃ top rest, (heap.drain precedes due limit).2.pop? precedes = some (top, rest) ∧
        due top = false := by
  induction limit generalizing heap with
  | zero => exact .inl (size_eq_zero.1 (Nat.le_zero.1 enough))
  | succ limit induction =>
      rw [drain]
      split
      · rename_i nothing
        exact .inl (pop?_eq_none nothing)
      · rename_i top rest popped
        split
        · have fewer : heap.size = rest.size + 1 := by
            simpa [size_eq_length] using (pop?_perm popped).length_eq
          exact induction (by omega)
        · rename_i unripe
          exact .inr ⟨top, rest, popped, by simpa using unripe⟩

/-- The items of a heap in an order in which they may be taken. -/
structure Arranged (precedes : α → α → Bool) (heap : Heap α) (order : List α) : Prop where
  perm : order.Perm heap.toList
  ordered : order.Pairwise fun earlier later => precedes earlier later = true

section Order

variable (total : ∀ x y, precedes x y = true ∨ precedes y x = true)
  (transitive : ∀ x y z, precedes x y = true → precedes y z = true → precedes x z = true)
include total transitive

theorem arranged_mergeSort (heap : Heap α) :
    heap.Arranged precedes (heap.toList.mergeSort precedes) where
  perm := List.mergeSort_perm _ _
  ordered := List.pairwise_mergeSort transitive (by simpa using total) _

/-- A top that may be taken stands before the others in some order. -/
theorem Sound.arranges {top : α} {rest : Heap α} (sound : heap.Sound precedes)
    (popped : heap.pop? precedes = some (top, rest)) :
    ∃ later, heap.Arranged precedes (top :: later) := by
  have sorted := rest.arranged_mergeSort total transitive
  refine ⟨_, (sorted.perm.cons top).trans (pop?_perm popped).symm, ?_⟩
  refine List.pairwise_cons.2 ⟨fun other member => ?_, sorted.ordered⟩
  exact (sound.pop total transitive popped).2 other (sorted.perm.mem_iff.1 member)

/-- Draining hands out the longest due prefix of the items in order and keeps the rest. -/
theorem Sound.cuts (sound : heap.Sound precedes) (due : α → Bool) :
    ∃ order, heap.Arranged precedes order ∧
      (heap.drainWhile precedes due).1 = order.takeWhile due ∧
      (heap.drainWhile precedes due).2.Arranged precedes (order.dropWhile due) := by
  have drained : Drained precedes due (heap.drainWhile precedes due).1
      (heap.drainWhile precedes due).2 := sound.drain total transitive heap.size
  have split : heap.toList.Perm
      ((heap.drainWhile precedes due).1 ++ (heap.drainWhile precedes due).2.toList) :=
    drainWhile_perm heap
  have stops : (heap.drainWhile precedes due).2 = empty ∨
      ∃ top rest, (heap.drainWhile precedes due).2.pop? precedes = some (top, rest) ∧
        due top = false := drain_stops heap.size (Nat.le_refl _)
  generalize (heap.drainWhile precedes due).1 = handed at drained split stops ⊢
  generalize (heap.drainWhile precedes due).2 = remaining at drained split stops ⊢
  obtain ⟨waiting, arranged, unripe⟩ : ∃ waiting, remaining.Arranged precedes waiting ∧
      (waiting.takeWhile due = [] ∧ waiting.dropWhile due = waiting) := by
    rcases stops with rfl | ⟨top, rest, popped, notDue⟩
    · exact ⟨[], ⟨List.Perm.refl _, List.Pairwise.nil⟩, rfl, rfl⟩
    · obtain ⟨later, arranged⟩ := drained.sound.arranges total transitive popped
      have blocked : ¬ due top = true := by simp [notDue]
      exact ⟨top :: later, arranged, List.takeWhile_cons_of_neg blocked,
        List.dropWhile_cons_of_neg blocked⟩
  refine ⟨handed ++ waiting, ⟨?_, ?_⟩, ?_, ?_⟩
  · exact (arranged.perm.append_left handed).trans split.symm
  · refine List.pairwise_append.2 ⟨drained.ordered, arranged.ordered, ?_⟩
    intro earlier member later waits
    exact drained.before earlier member later (arranged.perm.mem_iff.1 waits)
  · rw [List.takeWhile_append_of_pos drained.ripe, unripe.1, List.append_nil]
  · rw [List.dropWhile_append_of_pos drained.ripe, unripe.2]
    exact arranged

end Order

end Heap

end CoSimulation
