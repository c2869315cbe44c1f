import CoSimulation.Proofs.Heap

/-!
# The order of heaps

A heap is sound if its tree is filled level by level and no item stands below one that it
does not follow.  Pushing and popping keep it so, and the item that is popped precedes
all others, so draining hands the items out in order.

The shape matters: the last position of the tree must be found at the end of the way that
the digits of its number describe, or a pop would take something else than the top away.
-/

namespace CoSimulation.Heap

variable {α : Type} {precedes : α → α → Bool}

/-! ## Shape -/

/-- How many positions of a tree of some size lie in the right subtree. -/
def onRight : Nat → Nat
  | 0 | 1 => 0
  | count + 2 => onRight (count + 1) + if isOnRight (count + 2) then 1 else 0

/-- The tree is filled level by level, each level from the left. -/
def Filled : Heap α → Prop
  | empty => True
  | node _ left right =>
      right.size = onRight (left.size + right.size + 1) ∧ left.Filled ∧ right.Filled

theorem onRight_add_two_le (count : Nat) : onRight (count + 2) ≤ count := by
  induction count with
  | zero => decide
  | succ count induction =>
      have step : onRight (count + 3) =
          onRight (count + 2) + if isOnRight (count + 3) then 1 else 0 := rfl
      rw [step]
      split <;> omega

@[simp] theorem size_node (top : α) (left right : Heap α) :
    (node top left right).size = left.size + right.size + 1 := rfl

theorem size_eq_zero {heap : Heap α} : heap.size = 0 ↔ heap = empty := by
  cases heap <;> simp [size]

theorem size_push (item : α) (heap : Heap α) : (heap.push precedes item).size = heap.size + 1 := by
  rw [size_eq_length, size_eq_length, (push_perm item heap).length_eq, List.length_cons]

theorem size_takeLast? {heap rest : Heap α} {item : α}
    (taken : heap.takeLast? = some (item, rest)) : heap.size = rest.size + 1 := by
  rw [size_eq_length, size_eq_length, (takeLast?_perm taken).length_eq, List.length_cons]

theorem size_replaceTop (item : α) (heap : Heap α) :
    (heap.replaceTop precedes item).size = heap.size := by
  cases heap with
  | empty => rfl
  | node top left right =>
      rw [size_eq_length, size_eq_length, (replaceTop_perm item fun none => by cases none).length_eq]
      simp

theorem filled_settleLeft (top : α) {left right : Heap α}
    (shape : right.size = onRight (left.size + right.size + 1)) (leftFilled : left.Filled)
    (rightFilled : right.Filled) : (settleLeft precedes top left right).Filled := by
  cases left with
  | empty => exact ⟨shape, trivial, rightFilled⟩
  | node below left' right' =>
      rw [settleLeft]
      split
      · exact ⟨shape, leftFilled, rightFilled⟩
      · exact ⟨shape, leftFilled, rightFilled⟩

theorem filled_settleRight (top : α) {left right : Heap α}
    (shape : right.size = onRight (left.size + right.size + 1)) (leftFilled : left.Filled)
    (rightFilled : right.Filled) : (settleRight precedes top left right).Filled := by
  cases right with
  | empty => exact ⟨shape, leftFilled, trivial⟩
  | node below left' right' =>
      rw [settleRight]
      split
      · exact ⟨shape, leftFilled, rightFilled⟩
      · exact ⟨shape, leftFilled, rightFilled⟩

theorem Filled.push (item : α) {heap : Heap α} (filled : heap.Filled) :
    (heap.push precedes item).Filled := by
  induction heap with
  | empty => exact ⟨rfl, trivial, trivial⟩
  | node top left right leftInduction rightInduction =>
      obtain ⟨shape, leftFilled, rightFilled⟩ := filled
      rw [Heap.push]
      split
      · rename_i side
        apply filled_settleRight top _ leftFilled (rightInduction rightFilled)
        rw [size_push, ← Nat.add_assoc, onRight, if_pos side, ← shape]
      · rename_i side
        apply filled_settleLeft top _ (leftInduction leftFilled) rightFilled
        rw [size_push, Nat.add_right_comm left.size, onRight, if_neg side, ← shape]
        rfl

theorem Filled.takeLast? {heap rest : Heap α} {item : α} (filled : heap.Filled)
    (taken : heap.takeLast? = some (item, rest)) : rest.Filled := by
  induction heap generalizing rest with
  | empty => cases taken
  | node top left right leftInduction rightInduction =>
      obtain ⟨shape, leftFilled, rightFilled⟩ := filled
      rw [Heap.takeLast?] at taken
      split at taken
      · rename_i last right' fromRight
        split at fromRight
        · rename_i side
          cases taken
          have size := size_takeLast? fromRight
          rw [size, ← Nat.add_assoc] at shape side
          rw [onRight, if_pos side] at shape
          exact ⟨Nat.succ.inj shape, leftFilled, rightInduction rightFilled fromRight⟩
        · cases fromRight
      · rename_i nothing
        split at taken
        · rename_i last left' fromLeft
          cases taken
          have size := size_takeLast? fromLeft
          rw [size, Nat.add_right_comm left'.size] at shape nothing
          refine ⟨?_, leftInduction leftFilled fromLeft, rightFilled⟩
          by_cases side : isOnRight (left'.size + right.size + 2) = true
          · -- the last position is on the right, where there is an item, then
            rw [if_pos side] at nothing
            rw [takeLast?_eq_none nothing] at shape side ⊢
            rw [onRight, if_pos side] at shape
            cases shape
          · rw [onRight, if_neg side] at shape
            exact shape
        · cases taken
          exact rightFilled

/-- Taking the last item off leaves the top where it is, if anything is left. -/
theorem Filled.peek?_takeLast? {heap rest : Heap α} {item : α} (filled : heap.Filled)
    (taken : heap.takeLast? = some (item, rest)) :
    (heap = node item empty empty ∧ rest = empty) ∨ rest.peek? = heap.peek? := by
  cases heap with
  | empty => cases taken
  | node top left right =>
      obtain ⟨shape, -, -⟩ := filled
      rw [Heap.takeLast?] at taken
      split at taken
      · cases taken
        exact .inr rfl
      · split at taken
        · cases taken
          exact .inr rfl
        · rename_i nothing
          cases taken
          have leftEmpty := takeLast?_eq_none nothing
          subst leftEmpty
          have rightEmpty : rest = empty := by
            apply size_eq_zero.1
            rw [size_eq_zero.2 (rfl : (empty : Heap α) = empty), Nat.zero_add] at shape
            cases size : rest.size with
            | zero => rfl
            | succ count =>
                have few : onRight (count + 1 + 1) ≤ count := onRight_add_two_le count
                rw [size] at shape
                omega
          exact .inl ⟨by rw [rightEmpty], rightEmpty⟩

theorem Filled.replaceTop (item : α) {heap : Heap α} (filled : heap.Filled) :
    (heap.replaceTop precedes item).Filled := by
  induction heap with
  | empty => trivial
  | node top left right leftInduction rightInduction =>
      obtain ⟨shape, leftFilled, rightFilled⟩ := filled
      have intoLeft (first : α) : (node first (left.replaceTop precedes item) right).Filled :=
        ⟨by rw [size_replaceTop]; exact shape, leftInduction leftFilled, rightFilled⟩
      have intoRight (first : α) : (node first left (right.replaceTop precedes item)).Filled :=
        ⟨by rw [size_replaceTop]; exact shape, leftFilled, rightInduction rightFilled⟩
      rw [Heap.replaceTop]
      split
      · exact ⟨shape, leftFilled, rightFilled⟩
      · split
        · exact intoLeft _
        · exact ⟨shape, leftFilled, rightFilled⟩
      · split
        · exact intoRight _
        · exact ⟨shape, leftFilled, rightFilled⟩
      · split
        · split
          · exact intoRight _
          · exact ⟨shape, leftFilled, rightFilled⟩
        · split
          · exact intoLeft _
          · exact ⟨shape, leftFilled, rightFilled⟩

/-! ## Order -/

/-- No item stands below one that it does not follow. -/
def Ranked (precedes : α → α → Bool) : Heap α → Prop
  | empty => True
  | node top left right =>
      (∀ item ∈ left.toList ++ right.toList, precedes top item = true) ∧
        left.Ranked precedes ∧ right.Ranked precedes

section Order

variable (total : ∀ x y, precedes x y = true ∨ precedes y x = true)
  (transitive : ∀ x y z, precedes x y = true → precedes y z = true → precedes x z = true)

omit total transitive in
theorem Ranked.takeLast? {heap rest : Heap α} {item : α} (ranked : heap.Ranked precedes)
    (taken : heap.takeLast? = some (item, rest)) : rest.Ranked precedes := by
  induction heap generalizing rest with
  | empty => cases taken
  | node top left right leftInduction rightInduction =>
      obtain ⟨above, leftRanked, rightRanked⟩ := ranked
      obtain ⟨aboveLeft, aboveRight⟩ := List.forall_mem_append.1 above
      rw [Heap.takeLast?] at taken
      split at taken
      · rename_i last right' fromRight
        split at fromRight
        · cases taken
          have kept : ∀ other ∈ right'.toList, precedes top other = true := fun other member =>
            aboveRight other ((takeLast?_perm fromRight).mem_iff.2 (List.mem_cons_of_mem _ member))
          exact ⟨List.forall_mem_append.2 ⟨aboveLeft, kept⟩, leftRanked,
            rightInduction rightRanked fromRight⟩
        · cases fromRight
      · split at taken
        · rename_i last left' fromLeft
          cases taken
          have kept : ∀ other ∈ left'.toList, precedes top other = true := fun other member =>
            aboveLeft other ((takeLast?_perm fromLeft).mem_iff.2 (List.mem_cons_of_mem _ member))
          exact ⟨List.forall_mem_append.2 ⟨kept, aboveRight⟩,
            leftInduction leftRanked fromLeft, rightRanked⟩
        · cases taken
          exact rightRanked

include total

theorem precedes_refl (item : α) : precedes item item = true := (total item item).elim id id

theorem precedes_of_not {x y : α} (notBefore : ¬ precedes x y = true) : precedes y x = true :=
  (total x y).resolve_left notBefore

theorem Ranked.peek {heap : Heap α} {top : α} (ranked : heap.Ranked precedes)
    (first : heap.peek? = some top) : ∀ item ∈ heap.toList, precedes top item = true := by
  cases heap with
  | empty => cases first
  | node found left right =>
      cases first
      intro item member
      rcases List.mem_cons.1 member with same | below
      · rw [same]
        exact precedes_refl total top
      · exact ranked.1 item below

include transitive

/-- A top that precedes the top of a subtree precedes the whole subtree. -/
theorem above_of_precedes {top below : α} {left right : Heap α}
    (ranked : (node below left right).Ranked precedes) (before : precedes top below = true) :
    ∀ item ∈ (node below left right).toList, precedes top item = true := fun item member =>
  transitive _ _ _ before (ranked.peek total rfl item member)

omit transitive in
/-- What has risen above the top is the new item, so the others were below it. -/
theorem ranked_of_risen {top below item : α} {left right : Heap α} {old : List α}
    (held : (node below left right).toList.Perm (item :: old))
    (aboveOld : ∀ other ∈ old, precedes top other = true)
    (ranked : (node below left right).Ranked precedes) (notBefore : ¬ precedes top below = true) :
    precedes below top = true ∧ (node top left right).Ranked precedes := by
  have new : below = item := by
    rcases List.mem_cons.1 (held.mem_iff.1 List.mem_cons_self) with same | listed
    · exact same
    · exact absurd (aboveOld below listed) notBefore
  subst new
  have others : (left.toList ++ right.toList).Perm old := held.cons_inv
  exact ⟨precedes_of_not total notBefore,
    fun other member => aboveOld other (others.mem_iff.1 member), ranked.2⟩

theorem ranked_settleLeft {top item : α} {left right : Heap α} {old : List α}
    (held : left.toList.Perm (item :: old))
    (aboveOld : ∀ other ∈ old, precedes top other = true)
    (aboveRight : ∀ other ∈ right.toList, precedes top other = true)
    (leftRanked : left.Ranked precedes) (rightRanked : right.Ranked precedes) :
    (settleLeft precedes top left right).Ranked precedes := by
  cases left with
  | empty => cases held.symm.eq_nil
  | node below left' right' =>
      rw [settleLeft]
      split
      · rename_i before
        have above := above_of_precedes total transitive leftRanked before
        exact ⟨List.forall_mem_append.2 ⟨above, aboveRight⟩, leftRanked, rightRanked⟩
      · rename_i notBefore
        obtain ⟨after, sunk⟩ := ranked_of_risen total held aboveOld leftRanked notBefore
        refine ⟨List.forall_mem_append.2 ⟨fun other member => ?_, fun other member => ?_⟩,
          sunk, rightRanked⟩
        · rcases List.mem_cons.1 member with same | deeper
          · rw [same]
            exact after
          · exact leftRanked.1 other deeper
        · exact transitive _ _ _ after (aboveRight other member)

theorem ranked_settleRight {top item : α} {left right : Heap α} {old : List α}
    (held : right.toList.Perm (item :: old))
    (aboveOld : ∀ other ∈ old, precedes top other = true)
    (aboveLeft : ∀ other ∈ left.toList, precedes top other = true)
    (leftRanked : left.Ranked precedes) (rightRanked : right.Ranked precedes) :
    (settleRight precedes top left right).Ranked precedes := by
  cases right with
  | empty => cases held.symm.eq_nil
  | node below left' right' =>
      rw [settleRight]
      split
      · rename_i before
        have above := above_of_precedes total transitive rightRanked before
        exact ⟨List.forall_mem_append.2 ⟨aboveLeft, above⟩, leftRanked, rightRanked⟩
      · rename_i notBefore
        obtain ⟨after, sunk⟩ := ranked_of_risen total held aboveOld rightRanked notBefore
        refine ⟨List.forall_mem_append.2 ⟨fun other member => ?_, fun other member => ?_⟩,
          leftRanked, sunk⟩
        · exact transitive _ _ _ after (aboveLeft other member)
        · rcases List.mem_cons.1 member with same | deeper
          · rw [same]
            exact after
          · exact rightRanked.1 other deeper

theorem Ranked.push (item : α) {heap : Heap α} (ranked : heap.Ranked precedes) :
    (heap.push precedes item).Ranked precedes := by
  induction heap with
  | empty => exact ⟨by simp [toList], trivial, trivial⟩
  | node top left right leftInduction rightInduction =>
      obtain ⟨above, leftRanked, rightRanked⟩ := ranked
      obtain ⟨aboveLeft, aboveRight⟩ := List.forall_mem_append.1 above
      rw [Heap.push]
      split
      · exact ranked_settleRight total transitive (push_perm item right) aboveRight aboveLeft
          leftRanked (rightInduction rightRanked)
      · exact ranked_settleLeft total transitive (push_perm item left) aboveLeft aboveRight
          (leftInduction leftRanked) rightRanked

omit transitive in
/-- A subtree whose top gives way to an item still follows everything that precedes both. -/
theorem above_of_sunk {first item : α} {heap : Heap α} (ranked : heap.Ranked precedes)
    (peeked : heap.peek? = some first) (before : precedes first item = true) :
    ∀ other ∈ (heap.replaceTop precedes item).toList, precedes first other = true := by
  have nonempty : heap ≠ empty := by
    rintro rfl
    cases peeked
  intro other member
  rcases List.mem_cons.1 ((replaceTop_perm item nonempty).mem_iff.1 member) with same | below
  · rw [same]
    exact before
  · exact ranked.peek total peeked other (List.mem_of_mem_tail below)

theorem Ranked.replaceTop (item : α) {heap : Heap α} (ranked : heap.Ranked precedes) :
    (heap.replaceTop precedes item).Ranked precedes := by
  induction heap with
  | empty => trivial
  | node top left right leftInduction rightInduction =>
      obtain ⟨-, leftRanked, rightRanked⟩ := ranked
      have nothing {heap : Heap α} (none : heap.peek? = none) (first : α) :
          ∀ other ∈ heap.toList, precedes first other = true := by
        cases heap with
        | empty => simp [toList]
        | node => cases none
      have follows {heap : Heap α} {first before : α} (ranked : heap.Ranked precedes)
          (peeked : heap.peek? = some first) (le : precedes before first = true) :
          ∀ other ∈ heap.toList, precedes before other = true := fun other member =>
        transitive _ _ _ le (ranked.peek total peeked other member)
      have stays (aboveLeft : ∀ other ∈ left.toList, precedes item other = true)
          (aboveRight : ∀ other ∈ right.toList, precedes item other = true) :
          (node item left right).Ranked precedes :=
        ⟨List.forall_mem_append.2 ⟨aboveLeft, aboveRight⟩, leftRanked, rightRanked⟩
      have intoLeft {first : α} (peeked : left.peek? = some first)
          (before : precedes first item = true)
          (aboveRight : ∀ other ∈ right.toList, precedes first other = true) :
          (node first (left.replaceTop precedes item) right).Ranked precedes :=
        ⟨List.forall_mem_append.2 ⟨above_of_sunk total leftRanked peeked before, aboveRight⟩,
          leftInduction leftRanked, rightRanked⟩
      have intoRight {first : α} (peeked : right.peek? = some first)
          (before : precedes first item = true)
          (aboveLeft : ∀ other ∈ left.toList, precedes first other = true) :
          (node first left (right.replaceTop precedes item)).Ranked precedes :=
        ⟨List.forall_mem_append.2 ⟨aboveLeft, above_of_sunk total rightRanked peeked before⟩,
          leftRanked, rightInduction rightRanked⟩
      rw [Heap.replaceTop]
      split
      · rename_i noLeft noRight
        exact stays (nothing noLeft item) (nothing noRight item)
      · rename_i onLeft peekedLeft noRight
        split
        · rename_i before
          exact intoLeft peekedLeft before (nothing noRight onLeft)
        · rename_i notBefore
          exact stays (follows leftRanked peekedLeft (precedes_of_not total notBefore))
            (nothing noRight item)
      · rename_i onRight noLeft peekedRight
        split
        · rename_i before
          exact intoRight peekedRight before (nothing noLeft onRight)
        · rename_i notBefore
          exact stays (nothing noLeft item)
            (follows rightRanked peekedRight (precedes_of_not total notBefore))
      · rename_i onLeft onRight peekedLeft peekedRight
        split
        · rename_i least
          split
          · rename_i before
            exact intoRight peekedRight before (follows leftRanked peekedLeft least)
          · rename_i notBefore
            have first := precedes_of_not total notBefore
            exact stays (follows leftRanked peekedLeft (transitive _ _ _ first least))
              (follows rightRanked peekedRight first)
        · rename_i notLeast
          have least := precedes_of_not total notLeast
          split
          · rename_i before
            exact intoLeft peekedLeft before (follows rightRanked peekedRight least)
          · rename_i notBefore
            have first := precedes_of_not total notBefore
            exact stays (follows leftRanked peekedLeft first)
              (follows rightRanked peekedRight (transitive _ _ _ first least))

end Order

/-! ## Sound heaps -/

structure Sound (precedes : α → α → Bool) (heap : Heap α) : Prop where
  filled : heap.Filled
  ranked : heap.Ranked precedes

/-- What a drain hands out, and what it leaves. -/
structure Drained (precedes : α → α → Bool) (due : α → Bool) (handed : List α)
    (remaining : Heap α) : Prop where
  sound : remaining.Sound precedes
  ripe : ∀ item ∈ handed, due item = true
  ordered : handed.Pairwise fun earlier later => precedes earlier later = true
  before : ∀ earlier ∈ handed, ∀ later ∈ remaining.toList, precedes earlier later = true

theorem sound_empty : (empty : Heap α).Sound precedes := ⟨trivial, trivial⟩

section Sound

variable (total : ∀ x y, precedes x y = true ∨ precedes y x = true)
  (transitive : ∀ x y z, precedes x y = true → precedes y z = true → precedes x z = true)
include total transitive

theorem Sound.push (item : α) {heap : Heap α} (sound : heap.Sound precedes) :
    (heap.push precedes item).Sound precedes :=
  ⟨sound.filled.push item, sound.ranked.push total transitive item⟩

/-- The item that is popped precedes all others. -/
theorem Sound.pop {heap rest : Heap α} {item : α} (sound : heap.Sound precedes)
    (popped : heap.pop? precedes = some (item, rest)) :
    rest.Sound precedes ∧ ∀ other ∈ rest.toList, precedes item other = true := by
  have perm := pop?_perm popped
  rw [pop?] at popped
  split at popped
  · cases popped
  · cases popped
    exact ⟨sound_empty, by simp [toList]⟩
  · rename_i last top left right taken
    cases popped
    have filled := sound.filled.takeLast? taken
    have ranked := sound.ranked.takeLast? taken
    refine ⟨⟨filled.replaceTop last, ranked.replaceTop total transitive last⟩, ?_⟩
    intro other member
    rcases sound.filled.peek?_takeLast? taken with ⟨-, none⟩ | first
    · cases none
    · exact sound.ranked.peek total first.symm other
        (perm.mem_iff.2 (List.mem_cons_of_mem _ member))

/-- Draining hands out due items in order, before all that stay. -/
theorem Sound.drain {due : α → Bool} (limit : Nat) {heap : Heap α}
    (sound : heap.Sound precedes) :
    Drained precedes due (heap.drain precedes due limit).1
      (heap.drain precedes due limit).2 := by
  have nothing {heap : Heap α} (sound : heap.Sound precedes) : Drained precedes due [] heap :=
    ⟨sound, by simp, List.Pairwise.nil, by simp⟩
  induction limit generalizing heap with
  | zero => exact nothing sound
  | succ limit induction =>
      rw [Heap.drain]
      split
      · exact nothing sound
      · rename_i top rest popped
        split
        · rename_i ripe
          obtain ⟨restSound, first⟩ := sound.pop total transitive popped
          have rested := induction restSound
          have perm : rest.toList.Perm
              ((rest.drain precedes due limit).1 ++ (rest.drain precedes due limit).2.toList) :=
            drain_perm limit rest
          constructor
          · exact rested.sound
          · exact List.forall_mem_cons.2 ⟨ripe, rested.ripe⟩
          · refine List.pairwise_cons.2 ⟨fun later member => ?_, rested.ordered⟩
            exact first later (perm.mem_iff.2 (List.mem_append_left _ member))
          · refine List.forall_mem_cons.2 ⟨fun later member => ?_, rested.before⟩
            exact first later (perm.mem_iff.2 (List.mem_append_right _ member))
        · exact nothing sound

end Sound

end CoSimulation.Heap
