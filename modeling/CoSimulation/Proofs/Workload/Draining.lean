import CoSimulation.Proofs.Heap.Draining
import CoSimulation.Proofs.Workload.Requests

/-!
# Due messages go over in order

In every slice the engine is handed the longest due prefix of the messages that wait, in
the order of messages.  Where no time is NaN, these are the messages due before the slice.

The order of messages ignores what they carry, and messages that tie in it are due at one
time.  So the cut depends on the envelopes only, and two workloads whose waiting messages
have the same envelopes hand the same arrivals over, in whatever order they were received.
-/

namespace CoSimulation

/-! ## What is due -/

namespace Message

open Binary64

/-- What precedes a message that is due at a number is due if that message is. -/
theorem isDue_of_precedes {previous : Seconds} {earlier later : Message}
    (numeric : later.destTime.isNaN = false) (before : earlier.precedes later = true)
    (due : Workload.isDue previous later = true) : Workload.isDue previous earlier = true := by
  simp only [Workload.isDue, Bool.not_eq_true', decide_eq_false_iff_not, le_iff] at due ⊢
  have positions := position_le_of_rank_le (rank_le_of_precedes before)
  rintro ⟨start, -, above⟩
  exact due ⟨start, numeric, Int.le_trans above positions⟩

theorem isDue_iff {previous : Seconds} {message : Message} (start : previous.isNaN = false)
    (numeric : message.destTime.isNaN = false) :
    Workload.isDue previous message = decide (message.destTime < previous) := by
  simp [Workload.isDue, le_iff, lt_iff, start, numeric, ← Bool.decide_eq_false]

end Message

namespace Workload

/-! ## One slice -/

/-- A slice hands the engine the longest due prefix of the messages that wait, in an order
in which they may be delivered, and then runs it; the other messages stay. -/
structure HandsOver (before : Workload) (slice : Slice) (after : Workload)
    (order : List Message) : Prop where
  arranged : before.pending.Arranged Message.precedes order
  calls : ∃ budget, after.engine.calls =
    before.engine.calls ++
        (if before.elapsed = none then [.init (toEngineTime slice.previous)] else []) ++
      (order.takeWhile (isDue slice.previous)).map Message.arrival ++
        [.run budget (toEngineTime slice.previous) slice.capacity]
  kept : after.pending.Arranged Message.precedes (order.dropWhile (isDue slice.previous))

theorem dueBefore_cuts {workload : Workload} (sound : workload.pending.Sound Message.precedes)
    (slice : Slice) :
    ∃ order, workload.pending.Arranged Message.precedes order ∧
      workload.dueBefore slice.previous = order.takeWhile (isDue slice.previous) ∧
      (workload.run slice).2.pending.Arranged Message.precedes
        (order.dropWhile (isDue slice.previous)) := by
  rw [pending_run]
  exact sound.cuts Message.precedes_total Message.precedes_trans (isDue slice.previous)

theorem handsOver_run {workload : Workload} (sound : workload.pending.Sound Message.precedes)
    (slice : Slice) : ∃ order, workload.HandsOver slice (workload.run slice).2 order := by
  obtain ⟨order, arranged, cut, kept⟩ := dueBefore_cuts sound slice
  refine ⟨order, arranged, ⟨workload.budget slice, ?_⟩, kept⟩
  simp [calls_run, Block.calls, block, cut]

/-- Where no time is NaN, the messages due before the slice are handed over and no others. -/
theorem HandsOver.filters {before after : Workload} {slice : Slice} {order : List Message}
    (hands : before.HandsOver slice after order)
    (numeric : ∀ message ∈ before.pending.toList, message.destTime.isNaN = false)
    (start : slice.previous.isNaN = false) :
    order.takeWhile (isDue slice.previous) =
        order.filter (fun message => decide (message.destTime < slice.previous)) ∧
      order.dropWhile (isDue slice.previous) =
        order.filter (fun message => !decide (message.destTime < slice.previous)) := by
  have dated (message : Message) (member : message ∈ order) :
      message.destTime.isNaN = false :=
    numeric message (hands.arranged.perm.mem_iff.1 member)
  have downward : order.Pairwise fun earlier later =>
      isDue slice.previous later = true → isDue slice.previous earlier = true :=
    hands.arranged.ordered.imp_of_mem fun _ second before =>
      Message.isDue_of_precedes (dated _ second) before
  constructor
  · apply (takeWhile_eq_filter downward).trans
    exact List.filter_congr fun message member => Message.isDue_iff start (dated message member)
  · apply (dropWhile_eq_filter downward).trans
    exact List.filter_congr fun message member =>
      congrArg (!·) (Message.isDue_iff start (dated message member))

/-! ## Each message once -/

/-- The messages that an unfinished workload takes in. -/
def queuedIn (workload : Workload) : Request → List Message
  | .receive message => if workload.finished then [] else [message]
  | .tick _ | .forward .. => []

def queued (workload : Workload) : List Request → List Message
  | [] => []
  | request :: later => workload.queuedIn request ++ (workload.perform request).queued later

theorem pending_receive (workload : Workload) (message : Message) :
    (workload.receive message).pending.toList.Perm
      (workload.queuedIn (.receive message) ++ workload.pending.toList) := by
  simp only [receive, queuedIn]
  split
  · exact List.Perm.refl _
  · exact Heap.push_perm message workload.pending

theorem incoming_perform (workload : Workload) (request : Request) :
    (workload.perform request).incoming =
      workload.incoming + ((workload.queuedIn request).map Message.arrival : List Call) := by
  cases request with
  | receive message =>
      have waits : (workload.receive message).waiting =
          ((workload.queuedIn (.receive message)).map Message.arrival : List Call) +
            workload.waiting := by
        apply (Multiset.coe_eq_coe.2 ((workload.pending_receive message).map _)).trans
        rw [List.map_append, ← Multiset.coe_add]
        rfl
      simp only [perform, incoming, waits, workload.engine_receive]
      abel
  | tick slice =>
      refine Eq.trans ?_ (add_zero _).symm
      have step := workload.performed (.tick slice)
      generalize workload.perform (.tick slice) = next at step ⊢
      generalize workload.ranIn (.tick slice) = slice? at step
      cases step with
      | ran => exact workload.incoming_run slice
      | idle => rfl
  | forward network records =>
      obtain ⟨pending, engine⟩ := workload.forward_keeps network records
      simp only [perform, queuedIn, incoming, waiting, pending, engine]
      exact (add_zero _).symm

theorem incoming_after (workload : Workload) (requests : List Request) :
    (workload.after requests).incoming =
      workload.incoming + ((workload.queued requests).map Message.arrival : List Call) := by
  induction requests generalizing workload with
  | nil => exact (add_zero _).symm
  | cons request later induction =>
      apply (induction (workload.perform request)).trans
      rw [incoming_perform, add_assoc, queued, List.map_append]
      rfl

/-! ## The order in which messages are received -/

/-- Two workloads that cannot be told apart by what messages carry. -/
structure Alike (left right : Workload) : Prop where
  terms : left.terms = right.terms
  elapsed : left.elapsed = right.elapsed
  finished : left.finished = right.finished
  runs : left.engine.runs = right.engine.runs
  arrivals : left.engine.arrivals = right.engine.arrivals
  pending : (left.pending.toList.map Message.envelope).Perm
    (right.pending.toList.map Message.envelope)
  sound : left.pending.Sound Message.precedes ∧ right.pending.Sound Message.precedes

theorem New.alike {workload : Workload} (new : workload.New) : workload.Alike workload :=
  ⟨rfl, rfl, rfl, rfl, rfl, List.Perm.refl _, by simp [new.pending, Heap.sound_empty]⟩

section Alike

variable {left middle right : Workload}

theorem Alike.refl (alike : left.Alike right) : right.Alike right :=
  ⟨rfl, rfl, rfl, rfl, rfl, List.Perm.refl _, alike.sound.2, alike.sound.2⟩

theorem Alike.trans (first : left.Alike middle) (second : middle.Alike right) :
    left.Alike right :=
  ⟨first.terms.trans second.terms, first.elapsed.trans second.elapsed,
    first.finished.trans second.finished, first.runs.trans second.runs,
    first.arrivals.trans second.arrivals, first.pending.trans second.pending,
    first.sound.1, second.sound.2⟩

/-- The cut goes through the same envelopes, and so alike workloads hand over the same. -/
theorem Alike.run (alike : left.Alike right) (slice : Slice) :
    (left.run slice).2.Alike (right.run slice).2 := by
  obtain ⟨leftOrder, leftArranged, leftCut, leftKept⟩ := dueBefore_cuts alike.sound.1 slice
  obtain ⟨rightOrder, rightArranged, rightCut, rightKept⟩ :=
    dueBefore_cuts alike.sound.2 slice
  have envelopes : leftOrder.map Message.envelope = rightOrder.map Message.envelope :=
    Message.envelopes_eq leftArranged.ordered rightArranged.ordered
      ((leftArranged.perm.map _).trans (alike.pending.trans (rightArranged.perm.map _).symm))
  have handed : (left.dueBefore slice.previous).map Message.envelope =
      (right.dueBefore slice.previous).map Message.envelope := by
    have cut := congrArg (List.takeWhile (isDue slice.previous)) envelopes
    rw [List.takeWhile_map, List.takeWhile_map] at cut
    rw [leftCut, rightCut]
    exact cut
  have kept : (leftOrder.dropWhile (isDue slice.previous)).map Message.envelope =
      (rightOrder.dropWhile (isDue slice.previous)).map Message.envelope := by
    have cut := congrArg (List.dropWhile (isDue slice.previous)) envelopes
    rw [List.dropWhile_map, List.dropWhile_map] at cut
    exact cut
  have leftTurned := left.turned_run slice
  have rightTurned := right.turned_run slice
  constructor
  · exact leftTurned.terms.trans (alike.terms.trans rightTurned.terms.symm)
  · simp only [elapsed_run, alike.elapsed]
  · simp only [finished_run, alike.elapsed, reachesEnd_eq_of_terms alike.terms]
  · simp only [leftTurned.runs, rightTurned.runs, alike.runs]
  · have arrived := congrArg (List.map (·.arrivalIn left.engine.runs)) handed
    simp only [List.map_map] at arrived
    rw [leftTurned.arrivals, rightTurned.arrivals, alike.arrivals, ← alike.runs]
    exact congrArg (right.engine.arrivals ++ ·) arrived
  · apply (leftKept.perm.symm.map _).trans
    rw [kept]
    exact rightKept.perm.map _
  · exact ⟨(leftTurned.inOrder alike.sound.1).sound, (rightTurned.inOrder alike.sound.2).sound⟩

theorem sound_receive {workload : Workload} (sound : workload.pending.Sound Message.precedes)
    (message : Message) : (workload.receive message).pending.Sound Message.precedes := by
  simp only [Workload.receive]
  split
  · exact sound
  · exact sound.push Message.precedes_total Message.precedes_trans message

theorem Alike.receive (alike : left.Alike right) (message : Message) :
    (left.receive message).Alike (right.receive message) := by
  have queued : left.queuedIn (.receive message) = right.queuedIn (.receive message) := by
    simp only [queuedIn, alike.finished]
  constructor
  · simpa using alike.terms
  · simpa using alike.elapsed
  · simpa using alike.finished
  · simpa only [engine_receive] using alike.runs
  · simpa only [engine_receive] using alike.arrivals
  · apply ((left.pending_receive message).map _).trans
    refine List.Perm.trans ?_ ((right.pending_receive message).map _).symm
    rw [queued, List.map_append, List.map_append]
    exact alike.pending.append_left _
  · exact ⟨sound_receive alike.sound.1 message, sound_receive alike.sound.2 message⟩

/-- Two messages may be received in either order. -/
theorem receive_comm {workload : Workload} (sound : workload.pending.Sound Message.precedes)
    (first second : Message) :
    ((workload.receive first).receive second).Alike
      ((workload.receive second).receive first) := by
  have pending (one other : Message) :
      ((workload.receive one).receive other).pending.toList.Perm
        (workload.queuedIn (.receive other) ++
          (workload.queuedIn (.receive one) ++ workload.pending.toList)) := by
    have later := (workload.receive one).pending_receive other
    simp only [queuedIn, finished_receive] at later
    exact later.trans ((workload.pending_receive one).append_left _)
  constructor
  · simp
  · simp
  · simp
  · simp only [engine_receive]
  · simp only [engine_receive]
  · apply List.Perm.map
    apply (pending first second).trans
    refine List.Perm.trans ?_ (pending second first).symm
    rw [← List.append_assoc, ← List.append_assoc]
    exact List.perm_append_comm.append_right _
  · exact ⟨sound_receive (sound_receive sound first) second,
      sound_receive (sound_receive sound second) first⟩

theorem Alike.perform (alike : left.Alike right) (request : Request) :
    (left.perform request).Alike (right.perform request) := by
  cases request with
  | receive message => exact alike.receive message
  | tick slice =>
      cases finished : left.finished with
      | true =>
          have also := alike.finished.symm.trans finished
          simpa only [Workload.perform, tick_of_finished finished, tick_of_finished also]
            using alike
      | false =>
          have also := alike.finished.symm.trans finished
          by_cases backward : slice.current < slice.previous
          · simpa only [Workload.perform, tick_of_backward finished backward,
              tick_of_backward also backward] using alike
          · simpa only [Workload.perform, tick_of_running finished backward,
              tick_of_running also backward] using alike.run slice
  | forward network records =>
      obtain ⟨leftPending, leftEngine⟩ := left.forward_keeps network records
      obtain ⟨rightPending, rightEngine⟩ := right.forward_keeps network records
      constructor
      · simpa [Workload.perform] using alike.terms
      · simpa [Workload.perform] using alike.elapsed
      · simpa [Workload.perform] using alike.finished
      · simpa only [Workload.perform, leftEngine, rightEngine] using alike.runs
      · simpa only [Workload.perform, leftEngine, rightEngine] using alike.arrivals
      · simpa only [Workload.perform, leftPending, rightPending] using alike.pending
      · simpa only [Workload.perform, leftPending, rightPending] using alike.sound

/-- The same requests, up to the order of messages that are received one after the other. -/
inductive Rearranged : List Request → List Request → Prop
  | nil : Rearranged [] []
  | cons (request : Request) {requests others : List Request} :
      Rearranged requests others → Rearranged (request :: requests) (request :: others)
  | swap (first second : Message) (later : List Request) :
      Rearranged (.receive first :: .receive second :: later)
        (.receive second :: .receive first :: later)
  | trans {requests between others : List Request} :
      Rearranged requests between → Rearranged between others → Rearranged requests others

theorem Alike.performAll (alike : left.Alike right) (requests : List Request) :
    (left.after requests).Alike (right.after requests) := by
  induction requests generalizing left right with
  | nil => exact alike
  | cons request later induction => exact induction (alike.perform request)

theorem Alike.after (alike : left.Alike right) {requests others : List Request}
    (same : Rearranged requests others) :
    (left.after requests).Alike (right.after others) := by
  induction same generalizing left right with
  | nil => exact alike
  | cons request _ induction => exact induction (alike.perform request)
  | swap first second later =>
      have swapped : ((left.receive first).receive second).Alike
          ((right.receive second).receive first) :=
        ((alike.receive first).receive second).trans (receive_comm alike.sound.2 first second)
      exact swapped.performAll later
  | trans _ _ earlier later => exact (earlier alike).trans (later alike.refl)

end Alike

/-! ## All slices -/

/-- Every message that a new workload takes in goes over once or waits, and each slice hands
over the longest due prefix of those that wait; where no time is NaN, these are the ones due
before the slice.  The arrivals do not depend on the order in which messages came in. -/
theorem hands_over_due {workload : Workload} (new : workload.New) (requests : List Request) :
    let reached := workload.after requests
    reached.incoming = ((workload.queued requests).map Message.arrival : List Call) ∧
    (∀ slice records next, reached.finished = false →
      reached.tick slice = (.ok records, next) →
      ∃ order, reached.HandsOver slice next order ∧
        ((∀ message ∈ reached.pending.toList, message.destTime.isNaN = false) →
          slice.previous.isNaN = false →
          order.takeWhile (isDue slice.previous) =
              order.filter (fun message => decide (message.destTime < slice.previous)) ∧
            order.dropWhile (isDue slice.previous) =
              order.filter (fun message => !decide (message.destTime < slice.previous)))) ∧
    ∀ others, Rearranged requests others →
      (workload.after others).engine.arrivals = reached.engine.arrivals := by
  intro reached
  refine ⟨?_, ?_, fun others same => (new.alike.after same).arrivals.symm⟩
  · have nothing : workload.incoming = 0 := by
      simp [incoming, waiting, Engine.received, new.pending, new.engine, Heap.toList]
    rw [incoming_after, nothing, zero_add]
  · intro slice records next running ticked
    have forward : ¬ slice.current < slice.previous := by
      intro backward
      rw [tick_of_backward running backward] at ticked
      cases ticked
    rw [tick_of_running running forward] at ticked
    cases ticked
    have sound : reached.pending.Sound Message.precedes := (new.alike.performAll requests).sound.1
    obtain ⟨order, hands⟩ := handsOver_run sound slice
    exact ⟨order, hands, hands.filters⟩

theorem hands_over_due_twoSeconds :
    twoSeconds.New ∧
      (∃ order, (twoSeconds.after [.receive (batchDue 0.5), .receive (batchDue 0.25)]).HandsOver
          (sliceTo 2 1) ((twoSeconds.after
            [.receive (batchDue 0.5), .receive (batchDue 0.25)]).run (sliceTo 2 1)).2 order ∧
        order.takeWhile (isDue 1) = order.filter (fun message => decide (message.destTime < 1))) ∧
      (twoSeconds.after [.receive (batchDue 0.25), .receive (batchDue 0.5),
          .tick (sliceTo 2 1)]).engine.arrivals =
        (twoSeconds.after [.receive (batchDue 0.5), .receive (batchDue 0.25),
          .tick (sliceTo 2 1)]).engine.arrivals := by
  refine ⟨new_twoSeconds, ?_, ?_⟩
  · have running : (twoSeconds.after
        [.receive (batchDue 0.5), .receive (batchDue 0.25)]).finished = false := by
      decide +kernel
    have forward : ¬ (sliceTo 2 1).current < (sliceTo 2 1).previous := by decide +kernel
    have ticked := tick_of_running running forward
    obtain ⟨order, hands, filters⟩ :=
      (hands_over_due new_twoSeconds _).2.1 _ _ _ running ticked
    exact ⟨order, hands, (filters (by decide +kernel) (by decide +kernel)).1⟩
  · exact (hands_over_due new_twoSeconds _).2.2 _ (.swap _ _ _)

end Workload

end CoSimulation
