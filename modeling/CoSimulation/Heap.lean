/-!
# Heaps

A priority queue as a binary tree that is filled level by level, each level from
the left.  `precedes` tells whether one item may stand above another.

Items that precede each other both ways are ties.  Which of them is taken first
depends on the shape of the tree: a new item stays below an item it ties with,
and the hole that a removed top leaves is filled from the right on a tie.

`toList` is the view of a heap: adding and taking an item change it by exactly
that item.
-/

namespace CoSimulation

/-- A binary tree of items. -/
inductive Heap (α : Type) where
  | empty
  | node (top : α) (left right : Heap α)

namespace Heap

variable {α : Type}

instance : Inhabited (Heap α) := ⟨empty⟩

def size : Heap α → Nat
  | empty => 0
  | node _ left right => left.size + right.size + 1

/-- The items of a heap. -/
def toList : Heap α → List α
  | empty => []
  | node top left right => top :: (left.toList ++ right.toList)

def peek? : Heap α → Option α
  | empty => none
  | node top _ _ => some top

/-- Whether the given position of a tree filled level by level lies in the right
subtree.  The digit below the leading binary digit of a position tells its side. -/
def isOnRight (position : Nat) : Bool := position.testBit (position.log2 - 1)

/-- A node whose left subtree has just received an item: the item changes places
with the top if the top does not precede it. -/
def settleLeft (precedes : α → α → Bool) (top : α) (left right : Heap α) : Heap α :=
  match left with
  | empty => node top empty right
  | node below left' right' =>
      if precedes top below then node top (node below left' right') right
      else node below (node top left' right') right

/-- A node whose right subtree has just received an item. -/
def settleRight (precedes : α → α → Bool) (top : α) (left right : Heap α) : Heap α :=
  match right with
  | empty => node top left empty
  | node below left' right' =>
      if precedes top below then node top left (node below left' right')
      else node below left (node top left' right')

/-- Adds an item at the next free position and lets it rise. -/
def push (precedes : α → α → Bool) (item : α) : Heap α → Heap α
  | empty => node item empty empty
  | node top left right =>
      if isOnRight (left.size + right.size + 2) then
        settleRight precedes top left (right.push precedes item)
      else settleLeft precedes top (left.push precedes item) right

/-- Takes the item at the last position off the tree. -/
def takeLast? : Heap α → Option (α × Heap α)
  | empty => none
  | node top left right =>
      let fromRight :=
        if isOnRight (left.size + right.size + 1) then right.takeLast? else none
      match fromRight with
      | some (item, right') => some (item, node top left right')
      | none =>
          match left.takeLast? with
          | some (item, left') => some (item, node top left' right)
          | none => some (top, right)

/-- Replaces the top by an item and lets it sink. -/
def replaceTop (precedes : α → α → Bool) (item : α) : Heap α → Heap α
  | empty => empty
  | node _ left right =>
      match left.peek?, right.peek? with
      | none, none => node item left right
      | some onLeft, none =>
          if precedes onLeft item then node onLeft (left.replaceTop precedes item) right
          else node item left right
      | none, some onRight =>
          if precedes onRight item then node onRight left (right.replaceTop precedes item)
          else node item left right
      | some onLeft, some onRight =>
          if precedes onRight onLeft then
            if precedes onRight item then
              node onRight left (right.replaceTop precedes item)
            else node item left right
          else if precedes onLeft item then
            node onLeft (left.replaceTop precedes item) right
          else node item left right

/-- Takes the top off the heap. -/
def pop? (precedes : α → α → Bool) (heap : Heap α) : Option (α × Heap α) :=
  match heap.takeLast? with
  | none => none
  | some (last, empty) => some (last, empty)
  | some (last, node top left right) =>
      some (top, (node top left right).replaceTop precedes last)

/-- Takes items off the heap while the top is `due`, at most `limit` of them. -/
def drain (precedes : α → α → Bool) (due : α → Bool) : Nat → Heap α → List α × Heap α
  | 0, heap => ([], heap)
  | limit + 1, heap =>
      match heap.pop? precedes with
      | none => ([], heap)
      | some (top, rest) =>
          if due top then
            let (items, remaining) := drain precedes due limit rest
            (top :: items, remaining)
          else ([], heap)

/-- Takes items off the heap for as long as the top is `due`. -/
def drainWhile (precedes : α → α → Bool) (due : α → Bool) (heap : Heap α) :
    List α × Heap α :=
  drain precedes due heap.size heap

end Heap

end CoSimulation
