import CoSimulation.Heap

/-!
# What heaps hold

Whatever its order, a heap gives back exactly what was put in: pushing an item adds
it to the items, popping takes the top away from them, and draining splits them.
Nothing here depends on the shape of the tree.
-/

namespace CoSimulation.Heap

variable {α : Type} {precedes : α → α → Bool}

@[simp] theorem toList_node (top : α) (left right : Heap α) :
    (node top left right).toList = top :: (left.toList ++ right.toList) := rfl

theorem size_eq_length (heap : Heap α) : heap.size = heap.toList.length := by
  induction heap with
  | empty => rfl
  | node top left right leftInduction rightInduction =>
      simp [size, leftInduction, rightInduction]

theorem settleLeft_perm (top : α) (left right : Heap α) :
    (settleLeft precedes top left right).toList.Perm
      (top :: (left.toList ++ right.toList)) := by
  cases left with
  | empty => exact List.Perm.refl _
  | node below left' right' =>
      rw [settleLeft]
      split
      · exact List.Perm.refl _
      · exact List.Perm.swap _ _ _

theorem settleRight_perm (top : α) (left right : Heap α) :
    (settleRight precedes top left right).toList.Perm
      (top :: (left.toList ++ right.toList)) := by
  cases right with
  | empty => exact List.Perm.refl _
  | node below left' right' =>
      rw [settleRight]
      split
      · exact List.Perm.refl _
      · -- the new top and the old one have changed places across the left subtree
        simp only [toList_node]
        apply (List.Perm.cons below List.perm_middle).trans
        refine (List.Perm.swap top below _).trans (List.Perm.cons top ?_)
        exact List.perm_middle.symm

/-- Pushing adds the item. -/
theorem push_perm (item : α) (heap : Heap α) :
    (heap.push precedes item).toList.Perm (item :: heap.toList) := by
  induction heap with
  | empty => exact List.Perm.refl _
  | node top left right leftInduction rightInduction =>
      rw [push]
      split
      · apply (settleRight_perm _ _ _).trans
        refine (List.Perm.cons top ?_).trans (List.Perm.swap item top _)
        exact (List.Perm.append_left _ rightInduction).trans List.perm_middle
      · apply (settleLeft_perm _ _ _).trans
        refine (List.Perm.cons top ?_).trans (List.Perm.swap item top _)
        exact List.Perm.append_right _ leftInduction

theorem takeLast?_eq_none {heap : Heap α} (nothing : heap.takeLast? = none) :
    heap = empty := by
  cases heap with
  | empty => rfl
  | node top left right =>
      rw [takeLast?] at nothing
      split at nothing
      · cases nothing
      · split at nothing <;> cases nothing

theorem takeLast?_perm {heap rest : Heap α} {item : α}
    (taken : heap.takeLast? = some (item, rest)) :
    heap.toList.Perm (item :: rest.toList) := by
  induction heap generalizing rest with
  | empty => simp [takeLast?] at taken
  | node top left right leftInduction rightInduction =>
      have across (last : α) (right' : Heap α)
          (split : right.toList.Perm (last :: right'.toList)) :
          (node top left right).toList.Perm (last :: (node top left right').toList) :=
        (List.Perm.cons top ((List.Perm.append_left _ split).trans List.perm_middle)).trans
          (List.Perm.swap last top _)
      rw [takeLast?] at taken
      split at taken
      · rename_i last right' fromRight
        split at fromRight
        · cases taken
          exact across _ _ (rightInduction fromRight)
        · cases fromRight
      · split at taken
        · rename_i last left' fromLeft
          cases taken
          exact (List.Perm.cons top (List.Perm.append_right _ (leftInduction fromLeft))).trans
            (List.Perm.swap _ _ _)
        · rename_i noneLeft
          cases taken
          rw [takeLast?_eq_none noneLeft]
          exact List.Perm.refl _

theorem toList_of_peek? {heap : Heap α} {top : α} (first : heap.peek? = some top) :
    heap.toList = top :: heap.toList.tail := by
  cases heap with
  | empty => simp [peek?] at first
  | node found left right =>
      simp only [peek?, Option.some.injEq] at first
      simp [first]

/-- An item that sinks into a subtree exchanges places with the subtree's top. -/
theorem sink_perm {top item : α} {before after : Heap α}
    (first : before.peek? = some top)
    (sunk : after.toList.Perm (item :: before.toList.tail)) :
    (top :: after.toList).Perm (item :: before.toList) := by
  rw [toList_of_peek? first]
  exact (List.Perm.cons top sunk).trans (List.Perm.swap item top _)

/-- Sinking exchanges the old top for the item. -/
theorem replaceTop_perm (item : α) {heap : Heap α} (nonempty : heap ≠ empty) :
    (heap.replaceTop precedes item).toList.Perm (item :: heap.toList.tail) := by
  induction heap with
  | empty => exact absurd rfl nonempty
  | node top left right leftInduction rightInduction =>
      have nonemptyOf {subtree : Heap α} {first : α} (peeked : subtree.peek? = some first) :
          subtree ≠ empty := by
        intro none
        simp [none, peek?] at peeked
      have intoLeft {first : α} (peeked : left.peek? = some first) :
          (node first (left.replaceTop precedes item) right).toList.Perm
            (item :: (left.toList ++ right.toList)) :=
        List.Perm.append_right right.toList
          (sink_perm peeked (leftInduction (nonemptyOf peeked)))
      have intoRight {first : α} (peeked : right.peek? = some first) :
          (node first left (right.replaceTop precedes item)).toList.Perm
            (item :: (left.toList ++ right.toList)) :=
        List.perm_middle.symm.trans
          ((List.Perm.append_left left.toList
            (sink_perm peeked (rightInduction (nonemptyOf peeked)))).trans List.perm_middle)
      simp only [replaceTop, toList_node, List.tail_cons]
      split
      · exact List.Perm.refl _
      · split
        · exact intoLeft ‹_›
        · exact List.Perm.refl _
      · split
        · exact intoRight ‹_›
        · exact List.Perm.refl _
      · split
        · split
          · exact intoRight ‹_›
          · exact List.Perm.refl _
        · split
          · exact intoLeft ‹_›
          · exact List.Perm.refl _

/-- Popping takes the top away. -/
theorem pop?_perm {heap rest : Heap α} {top : α}
    (popped : heap.pop? precedes = some (top, rest)) :
    heap.toList.Perm (top :: rest.toList) := by
  rw [pop?] at popped
  split at popped
  · cases popped
  · cases popped
    exact takeLast?_perm ‹_›
  · rename_i last first left right taken
    cases popped
    refine (takeLast?_perm taken).trans ((List.Perm.swap top last _).trans ?_)
    have sunk : ((node top left right).replaceTop precedes last).toList.Perm
        (last :: (left.toList ++ right.toList)) :=
      replaceTop_perm last fun none => by cases none
    exact List.Perm.cons top sunk.symm

theorem drain_perm {due : α → Bool} (limit : Nat) (heap : Heap α) :
    heap.toList.Perm
      ((heap.drain precedes due limit).1 ++ (heap.drain precedes due limit).2.toList) := by
  induction limit generalizing heap with
  | zero => exact List.Perm.refl _
  | succ limit induction =>
      rw [drain]
      split
      · exact List.Perm.refl _
      · rename_i top rest popped
        split
        · exact (pop?_perm popped).trans (List.Perm.cons top (induction rest))
        · exact List.Perm.refl _

/-- Draining splits the items into those handed out and those that stay. -/
theorem drainWhile_perm {due : α → Bool} (heap : Heap α) :
    heap.toList.Perm
      ((heap.drainWhile precedes due).1 ++ (heap.drainWhile precedes due).2.toList) :=
  drain_perm heap.size heap

end CoSimulation.Heap
