import CoSimulation.Message
import CoSimulation.Proofs.Binary64.Instant

/-!
# The order of messages

Messages are compared by the time they are due, then by the time they were sent, then by
their vertices.  The order is total and transitive, and a message that precedes another
is not due later.

What a message carries does not count: messages compare as equal exactly if they agree in
everything else, their envelopes.  So sorting puts the envelopes of any messages in one
order, whatever order they came in.
-/

namespace CoSimulation.Message

open Binary64

variable {x y z : Message}

/-! ## Comparison -/

instance : Std.TransCmp Message.compare :=
  inferInstanceAs (Std.TransCmp
    (compareLex
      (compareLex (compareOn fun message : Message => message.destTime.rank)
        (compareOn fun message : Message => message.originTime.rank))
      (compareLex (compareOn Message.originVertex) (compareOn Message.destVertex))))

theorem compare_trans {result : Ordering} (first : x.compare y = result)
    (second : y.compare z = result) : x.compare z = result := by
  cases result with
  | lt => exact Std.TransCmp.lt_trans first second
  | eq => exact Std.TransCmp.eq_trans first second
  | gt => exact Std.TransCmp.gt_trans first second

/-- Messages compare as equal if nothing but what they carry differs. -/
theorem compare_eq_eq :
    x.compare y = .eq ↔
      x.destTime = y.destTime ∧ x.originTime = y.originTime ∧
        x.originVertex = y.originVertex ∧ x.destVertex = y.destVertex := by
  simp only [compare, totalCompare, Ordering.then_eq_eq, Int.compare_eq_eq,
    Nat.compare_eq_eq, rank_inj, and_assoc]

/-- A message due at an earlier number comes first, whatever the rest says. -/
theorem compare_of_earlier (earlier : x.destTime < y.destTime) : x.compare y = .lt := by
  have ranks : Ord.compare x.destTime.rank y.destTime.rank = .lt :=
    Int.compare_eq_lt.2 (rank_lt_of_lt earlier)
  rw [compare, totalCompare, ranks]
  rfl

/-! ## Precedence -/

theorem precedes_eq_isLE (x y : Message) : x.precedes y = (x.compare y).isLE := by
  rw [precedes]
  cases x.compare y <;> rfl

theorem precedes_total (x y : Message) : x.precedes y = true ∨ y.precedes x = true := by
  have reversed : y.compare x = (x.compare y).swap := Std.OrientedCmp.eq_swap
  rw [precedes_eq_isLE, precedes_eq_isLE, reversed]
  cases x.compare y <;> simp

theorem precedes_trans (x y z : Message) (first : x.precedes y = true)
    (second : y.precedes z = true) : x.precedes z = true := by
  rw [precedes_eq_isLE] at first second ⊢
  exact Std.TransCmp.isLE_trans first second

theorem precedes_iff :
    x.precedes y = true ↔
      x.destTime.rank < y.destTime.rank ∨ x.destTime.rank = y.destTime.rank ∧
        (x.originTime.rank < y.originTime.rank ∨ x.originTime.rank = y.originTime.rank ∧
          (x.originVertex < y.originVertex ∨ x.originVertex = y.originVertex ∧
            x.destVertex ≤ y.destVertex)) := by
  simp only [precedes, compare, Binary64.totalCompare]
  rcases Int.lt_trichotomy x.destTime.rank y.destTime.rank with less | same | more
  · simp [Int.compare_eq_lt.2 less, less]
  · rcases Int.lt_trichotomy x.originTime.rank y.originTime.rank with less | alike | more
    · simp [same, Int.compare_eq_lt.2 less, less]
    · rcases Nat.lt_trichotomy x.originVertex y.originVertex with less | equal | more
      · simp [same, alike, Nat.compare_eq_lt.2 less, less]
      · simp [same, alike, equal, Nat.compare_eq_gt]
      · simp [same, alike, Nat.compare_eq_gt.2 more, Nat.not_lt_of_gt more, Nat.ne_of_gt more]
    · simp [same, Int.compare_eq_gt.2 more, Int.le_of_lt more, Int.ne_of_gt more]
  · simp [Int.compare_eq_gt.2 more, Int.le_of_lt more, Int.ne_of_gt more]

theorem rank_le_of_precedes (before : x.precedes y = true) :
    x.destTime.rank ≤ y.destTime.rank := by
  rw [precedes_iff] at before
  omega

/-! ## Sorting -/

/-- A message without what it carries. -/
def envelope (message : Message) : Message :=
  { message with payload := { size := 0, timestamp := 0, latency := 0, totals := Table.empty } }

theorem compare_eq_eq_iff_envelope : x.compare y = .eq ↔ x.envelope = y.envelope := by
  rw [compare_eq_eq, envelope, envelope, Message.mk.injEq]
  constructor
  · rintro ⟨destTime, originTime, originVertex, destVertex⟩
    exact ⟨originVertex, originTime, destVertex, destTime, rfl⟩
  · rintro ⟨originVertex, originTime, destVertex, destTime, -⟩
    exact ⟨destTime, originTime, originVertex, destVertex⟩

theorem envelope_eq_of_precedes (first : x.precedes y = true) (second : y.precedes x = true) :
    x.envelope = y.envelope := by
  rw [precedes_eq_isLE] at first second
  exact compare_eq_eq_iff_envelope.1 (Std.OrientedCmp.isLE_antisymm first second)

/-- Messages that may be delivered in either of two orders have the same envelopes there. -/
theorem envelopes_eq {left right : List Message}
    (leftOrdered : left.Pairwise fun earlier later => earlier.precedes later = true)
    (rightOrdered : right.Pairwise fun earlier later => earlier.precedes later = true)
    (same : (left.map envelope).Perm (right.map envelope)) :
    left.map envelope = right.map envelope := by
  have ordered {messages : List Message}
      (inOrder : messages.Pairwise fun earlier later => earlier.precedes later = true) :
      (messages.map envelope).Pairwise fun earlier later => earlier.precedes later = true :=
    List.pairwise_map.2 inOrder
  refine List.Perm.eq_of_pairwise ?_ (ordered leftOrdered) (ordered rightOrdered) same
  intro x y inLeft inRight first second
  obtain ⟨a, -, rfl⟩ := List.mem_map.1 inLeft
  obtain ⟨b, -, rfl⟩ := List.mem_map.1 inRight
  exact envelope_eq_of_precedes first second

theorem sort_perm (messages : List Message) : (sort messages).Perm messages :=
  List.mergeSort_perm messages precedes

theorem sort_ordered (messages : List Message) :
    (sort messages).Pairwise fun earlier later => earlier.precedes later = true :=
  List.pairwise_mergeSort precedes_trans (by simpa using precedes_total) messages

/-- A message that precedes another is not due later. -/
theorem not_lt_of_precedes (before : x.precedes y = true) : ¬ y.destTime < x.destTime :=
  fun earlier => Int.not_le.2 (rank_lt_of_lt earlier) (rank_le_of_precedes before)

/-- However the messages are put in order, the envelopes come in the order of `sort`. -/
theorem envelopes_sort {left right : List Message} (same : left.Perm right)
    (ordered : right.Pairwise fun earlier later => earlier.precedes later = true) :
    (sort left).map envelope = right.map envelope :=
  envelopes_eq (sort_ordered left) ordered (((sort_perm left).trans same).map envelope)

/-- The laws of a total order, on any three messages. -/
structure Lawful (x y z : Message) : Prop where
  reflexive : x.compare x = .eq
  reversed : y.compare x = (x.compare y).swap
  transitive : (x.compare y).isLE = true → (y.compare z).isLE = true → (x.compare z).isLE = true
  alike : ∀ result, x.compare y = result → y.compare z = result → x.compare z = result

/-- What the comparison of two messages says about them. -/
structure Compared (x y : Message) : Prop where
  /-- The times have the same bits; what is carried does not count. -/
  ties : x.compare y = .eq ↔
    x.destTime.toBits = y.destTime.toBits ∧ x.originTime.toBits = y.originTime.toBits ∧
      x.originVertex = y.originVertex ∧ x.destVertex = y.destVertex
  envelopes : x.compare y = .eq ↔ x.envelope = y.envelope
  same : x.same y = true ↔ x.compare y = .eq
  partially : x.partialCompare y = some (x.compare y)
  before : x.before y = true ↔ x.partialCompare y = some .lt
  earlier : x.destTime < y.destTime → x.compare y = .lt
  /-- Times rank in the order of their bit patterns. -/
  lexical : x.precedes y = true ↔
    x.destTime.rank < y.destTime.rank ∨ x.destTime.rank = y.destTime.rank ∧
      (x.originTime.rank < y.originTime.rank ∨ x.originTime.rank = y.originTime.rank ∧
        (x.originVertex < y.originVertex ∨ x.originVertex = y.originVertex ∧
          x.destVertex ≤ y.destVertex))

theorem lawful (x y z : Message) : Lawful x y z where
  reflexive := Std.ReflCmp.compare_self
  reversed := Std.OrientedCmp.eq_swap
  transitive := Std.TransCmp.isLE_trans
  alike _ := compare_trans

theorem compared (x y : Message) : Compared x y where
  ties := by
    simp only [toBits_inj]
    exact compare_eq_eq
  envelopes := compare_eq_eq_iff_envelope
  same := by simp [Message.same]
  partially := rfl
  before := by simp [Message.before, partialCompare]
  earlier := compare_of_earlier
  lexical := precedes_iff

/-- Messages have one order, whatever their times are: it is lawful, ties exactly messages
with the same envelope and follows the numeric order of the times at which messages are due.
So sorting the same messages always gives the same envelopes in the same order. -/
theorem orders_envelopes :
    (∀ x y z : Message, Lawful x y z) ∧ (∀ x y : Message, Compared x y) ∧
    ∀ left right : List Message, left.Perm right →
      (sort left).Perm left ∧
      ((sort left).Pairwise fun earlier later => ¬ later.destTime < earlier.destTime) ∧
      (sort left).map envelope = (sort right).map envelope ∧
      ((right.Pairwise fun earlier later => earlier.precedes later = true) →
        (sort left).map envelope = right.map envelope) := by
  refine ⟨lawful, compared, fun left right same => ⟨sort_perm left, ?_, ?_, ?_⟩⟩
  · exact (sort_ordered left).imp not_lt_of_precedes
  · exact envelopes_sort (same.trans (sort_perm right).symm) (sort_ordered right)
  · exact envelopes_sort same

/-- One message, due at a given time. -/
def dueAt (time : Seconds) : Message :=
  { originVertex := 1, originTime := 0, destVertex := 2, destTime := time
    payload := { size := 1, timestamp := 0, latency := 0, totals := Table.empty } }

/-- NaNs of both signs stand at the ends, and the zeros are apart. -/
theorem orders_envelopes_extremes :
    let numeric := [dueAt (-infinity), dueAt negativeZero, dueAt zero, dueAt infinity]
    let messages := dueAt nan :: numeric.reverse ++ [dueAt invalid]
    (dueAt (-infinity)).destTime < (dueAt zero).destTime ∧
      (dueAt (-infinity)).compare (dueAt zero) = .lt ∧
      messages.Perm (dueAt invalid :: numeric ++ [dueAt nan]) ∧
      (sort messages).map envelope =
        (dueAt invalid :: numeric ++ [dueAt nan]).map envelope := by
  intro numeric messages
  have less : (dueAt (-infinity)).destTime < (dueAt zero).destTime := by decide +kernel
  have same : messages.Perm (dueAt invalid :: numeric ++ [dueAt nan]) := by
    simpa [messages, numeric] using (List.reverse_perm (dueAt invalid :: numeric ++ [dueAt nan]))
  obtain ⟨-, compared, sorts⟩ := orders_envelopes
  obtain ⟨-, -, -, arranged⟩ := sorts _ _ same
  exact ⟨less, (compared _ _).earlier less, same, arranged (by decide +kernel)⟩

end CoSimulation.Message
