import CoSimulation.Proofs.Workload.Requests

/-!
# The protocol between workloads and engines

Whatever is asked of a new workload, its engine sees an initialisation and then blocks, one
for every slice that the workload runs over.  `Traced` carries this through a sequence of
requests, together with what the counters tell about the messages.

A workload that has finished only counts what is dropped and sent from then on.
-/

namespace CoSimulation.Workload

/-! ## Engines see blocks -/

/-- The engine was asked for these blocks, and so many messages have reached the workload. -/
structure Traced (workload : Workload) (blocks : List Block) (received : Nat) : Prop where
  calls : workload.engine.calls = Block.trace blocks
  elapsed : workload.elapsed = none ↔ blocks = []
  drained : workload.counters.enqueued = workload.counters.drained + workload.pending.size
  received : workload.counters.enqueued + workload.counters.dropped = received

theorem New.traced {workload : Workload} (new : workload.New) : workload.Traced [] 0 where
  calls := by simp [Engine.calls, new.engine, Block.trace]
  elapsed := by simp [new.elapsed]
  drained := by simp [new.counters, new.pending, Heap.size]
  received := by simp [new.counters]

section Traced

variable {workload : Workload} {blocks : List Block} {received : Nat}
  (traced : workload.Traced blocks received)
include traced

theorem Traced.run (slice : Slice) :
    (workload.run slice).2.Traced (blocks ++ [workload.block slice]) received := by
  constructor
  · have begins : (workload.elapsed = none) = (blocks = []) := propext traced.elapsed
    simp only [calls_run, traced.calls, begins]
    exact (Block.trace_concat blocks (workload.block slice)).symm
  · simp [elapsed_run]
  · have split : workload.pending.size =
        (workload.dueBefore slice.previous).length + (workload.run slice).2.pending.size := by
      have perm : workload.pending.toList.Perm
          (workload.dueBefore slice.previous ++ (workload.run slice).2.pending.toList) := by
        rw [pending_run]
        exact Heap.drainWhile_perm workload.pending
      simpa [Heap.size_eq_length] using perm.length_eq
    have before := traced.drained
    simp only [counted_run]
    omega
  · simp only [counted_run]
    exact traced.received

/-- One request asks the engine for a block if the workload runs, and for nothing else. -/
theorem Traced.perform {request : Request} {slice : Option Slice} {next : Workload}
    (step : workload.Performed request slice next) :
    next.Traced (blocks ++ (slice.map workload.block).toList)
      (received + if request.isReceive then 1 else 0) := by
  have drained := traced.drained
  have counted := traced.received
  cases step with
  | ran running monotone => exact traced.run _
  | idle still => simpa [Request.isReceive] using traced
  | queued running =>
      refine ⟨by simpa using traced.calls, by simpa using traced.elapsed, ?_, ?_⟩
      · simp only [Heap.size_push]
        omega
      · simp only [Request.isReceive, if_true]
        omega
  | dropped finished =>
      refine ⟨by simpa using traced.calls, by simpa using traced.elapsed, drained, ?_⟩
      simp only [Request.isReceive, if_true]
      omega
  | forwarded sent =>
      exact ⟨by simpa using traced.calls, by simpa using traced.elapsed, drained, counted⟩

theorem Traced.after (requests : List Request) :
    (workload.after requests).Traced (blocks ++ workload.blocks requests)
      (received + requests.countP Request.isReceive) := by
  induction requests generalizing workload blocks received with
  | nil => simpa [Workload.after, Workload.blocks] using traced
  | cons request later induction =>
      have step := induction (traced.perform (workload.performed request))
      rw [List.append_assoc, Nat.add_assoc] at step
      rw [List.countP_cons, Nat.add_comm (later.countP _)]
      exact step

end Traced

theorem blocks_start (workload : Workload) (requests : List Request) :
    (workload.blocks requests).map Block.start =
      (workload.ran requests).map Slice.previous := by
  induction requests generalizing workload with
  | nil => rfl
  | cons request later induction =>
      rw [blocks, ran, List.map_append, List.map_append, induction]
      cases workload.ranIn request <;> rfl

/-! ## Finished workloads -/

/-- A workload has finished and is as before, up to the messages that it has dropped and
the batches that it has sent since. -/
structure Resting (ended later : Workload) : Prop where
  finished : later.finished = true
  same :
    { later with
      counters :=
        { later.counters with
          dropped := ended.counters.dropped
          sent := ended.counters.sent } } = ended
  ticks : ∀ slice, later.tick slice = (.ok [], later)
  length : later.remainingLength = 0
  time : later.timeToFinish = 0

theorem resting_of_same {ended later : Workload} (finished : later.finished = true)
    (same :
      { later with
        counters :=
          { later.counters with
            dropped := ended.counters.dropped
            sent := ended.counters.sent } } = ended) : ended.Resting later where
  finished := finished
  same := same
  ticks := tick_of_finished finished
  length := by simp [remainingLength, finished]
  time := by simp [timeToFinish, finished]

theorem Resting.perform {ended later next : Workload} (resting : ended.Resting later)
    {request : Request} {slice : Option Slice} (step : later.Performed request slice next) :
    ended.Resting next := by
  cases step with
  | ran running => cases resting.finished.symm.trans running
  | idle => exact resting
  | queued running => cases resting.finished.symm.trans running
  | dropped => exact resting_of_same resting.finished resting.same
  | forwarded => exact resting_of_same resting.finished resting.same

theorem Resting.after {ended later : Workload} (resting : ended.Resting later)
    (requests : List Request) : ended.Resting (later.after requests) := by
  induction requests generalizing later with
  | nil => exact resting
  | cons request requests induction => exact induction (resting.perform (later.performed request))

/-- Nothing but a slice that ends before it starts is refused. -/
theorem tick_error {workload : Workload} {slice : Slice} {fault : Fault}
    (refused : (workload.tick slice).1 = .error fault) :
    fault = .nonMonotonicTime workload.id slice.previous slice.current ∧
      (workload.tick slice).2 = workload := by
  cases finished : workload.finished with
  | true =>
      rw [tick_of_finished finished] at refused
      cases refused
  | false =>
      by_cases backward : slice.current < slice.previous
      · rw [tick_of_backward finished backward] at refused ⊢
        cases refused
        exact ⟨rfl, rfl⟩
      · rw [tick_of_running finished backward] at refused
        cases refused

/-- The engine of a new workload is asked for one block per slice that the workload runs
over, refused slices change nothing, and once the workload is finished it rests. -/
theorem asks_in_blocks {workload : Workload} (new : workload.New) (requests : List Request) :
    let reached := workload.after requests
    (∃ blocks : List Block, reached.engine.calls = Block.trace blocks ∧
      blocks.map Block.start = (workload.ran requests).map Slice.previous) ∧
    (∀ slice fault, (reached.tick slice).1 = .error fault →
      fault = .nonMonotonicTime reached.id slice.previous slice.current ∧
        (reached.tick slice).2 = reached) ∧
    (reached.finished = true → ∀ more, reached.Resting (reached.after more)) ∧
    reached.counters.enqueued = reached.counters.drained + reached.pending.size ∧
    reached.counters.enqueued + reached.counters.dropped =
      requests.countP Request.isReceive := by
  intro reached
  have traced : reached.Traced (workload.blocks requests)
      (requests.countP Request.isReceive) := by
    simpa using new.traced.after requests
  refine ⟨⟨_, traced.calls, workload.blocks_start requests⟩, ?_, ?_, traced.drained,
    traced.received⟩
  · intro slice fault refused
    exact tick_error refused
  · intro finished more
    exact (resting_of_same finished rfl).after more

/-- A batch in the first second, a slice that goes back, a second in which the workload
finishes with a batch still waiting, and a batch too late. -/
def untilFinished : List Request :=
  [.receive (batchDue 0.5), .tick (sliceTo 1 0), .tick (sliceTo 1 2), .receive (batchDue 3),
    .tick (sliceTo 2 1), .receive (batchDue 4), .tick (sliceTo 3 2)]

theorem asks_in_blocks_untilFinished :
    twoSeconds.New ∧ (twoSeconds.after untilFinished).finished = true ∧
      ∃ blocks : List Block,
        (twoSeconds.after untilFinished).engine.calls = Block.trace blocks ∧
          blocks.map Block.start = [0, 1] := by
  have slices : (twoSeconds.ran untilFinished).map Slice.previous = [0, 1] := by
    decide +kernel
  obtain ⟨blocks, calls, starts⟩ := (asks_in_blocks new_twoSeconds untilFinished).1
  exact ⟨new_twoSeconds, by decide +kernel, blocks, calls, starts.trans slices⟩

end CoSimulation.Workload
