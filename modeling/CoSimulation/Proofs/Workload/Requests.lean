import CoSimulation.Proofs.Arrivals.Turns
import CoSimulation.Proofs.Conservation.Turns
import CoSimulation.Proofs.Lifetimes.Slices

/-!
# Requests to a workload

A host hands messages to a workload, lets it run over slices of wall time, and has it
forward what its engine reported.  `Performed` tells everything that one such request can
do.  Only a slice that an unfinished workload runs over reaches the engine, and in each it
is asked for one block: the messages that are due are handed over, then the engine runs.
-/

namespace CoSimulation

/-! ## Blocks -/

/-- What an engine is asked for in one slice. -/
structure Block where
  handed : List Message
  budget : Nat
  start : Seconds
  capacity : Binary64

namespace Block

def calls (block : Block) : List Call :=
  block.handed.map Message.arrival ++
    [.run block.budget (toEngineTime block.start) block.capacity]

/-- The calls on an engine that is initialised where the first of its blocks starts. -/
def trace : List Block → List Call
  | [] => []
  | first :: later =>
      .init (toEngineTime first.start) :: (first :: later).flatMap calls

theorem trace_concat (blocks : List Block) (block : Block) :
    trace (blocks ++ [block]) =
      trace blocks ++ (if blocks = [] then [.init (toEngineTime block.start)] else []) ++
        block.calls := by
  cases blocks with
  | nil => simp [trace]
  | cons first later => simp [trace]

end Block

theorem Engine.calls_after (engine : Engine) (call : Call) :
    (engine.after call).calls = engine.calls ++ [call] :=
  List.reverse_cons

theorem Engine.calls_handOverAll (messages : List Message) (engine : Engine) :
    (messages.foldl Workload.handOver engine).calls =
      engine.calls ++ messages.map Message.arrival := by
  induction messages generalizing engine with
  | nil => exact (List.append_nil _).symm
  | cons message messages induction =>
      have first : (Workload.handOver engine message).calls =
          engine.calls ++ [message.arrival] := calls_after _ _
      simp [induction, first]

namespace Workload

/-! ## New workloads -/

/-- A workload that was asked for nothing yet. -/
structure New (workload : Workload) : Prop where
  engine : workload.engine.past = []
  pending : workload.pending = .empty
  elapsed : workload.elapsed = none
  finished : workload.finished = false
  history : workload.history = []
  counters : workload.counters = {}

theorem new_create (id : WorkloadId) (placement : Placement) {engine : Engine}
    (fresh : engine.past = []) : (create id placement engine).New :=
  ⟨fresh, rfl, rfl, rfl, rfl, rfl⟩

section Settings

variable {workload : Workload} (new : workload.New)
include new

theorem New.withTransport (transport : Transport) : (workload.withTransport transport).New :=
  { new with }

theorem New.withPes (pes : Nat) : (workload.withPes pes).New := { new with }

theorem New.withTolerance (tolerance : Binary64) : (workload.withTolerance tolerance).New :=
  { new with }

theorem New.withHistory (keepsHistory : Bool) : (workload.withHistory keepsHistory).New :=
  { new with }

end Settings

/-! ## What a slice does -/

/-- How many instructions the engine may spend in a slice. -/
def budget (workload : Workload) (slice : Slice) : Nat :=
  let elapsed := workload.elapsed.getD 0 + (slice.current - slice.previous)
  if workload.reachesEnd elapsed then
    prorate slice.instructions (elapsed - workload.duration) (slice.current - slice.previous)
  else slice.instructions

/-- What the engine is asked for in a slice. -/
def block (workload : Workload) (slice : Slice) : Block :=
  { handed := workload.dueBefore slice.previous
    budget := workload.budget slice
    start := slice.previous
    capacity := slice.capacity }

theorem budget_block (workload : Workload) (slice : Slice) :
    (workload.block slice).budget = workload.budget slice := by
  unfold block
  -- the kernel would compute the budget to compare the two sides
  generalize workload.budget slice = budget
  rfl

section Run

variable (workload : Workload) (slice : Slice)

/-- `execute` sees the elapsed time that `elapse` has added up, under the same terms. -/
theorem budget_run :
    (workload.run slice).2.engine =
        ((workload.elapse slice.current slice.previous).drain slice.previous).engine.after
          (.run (workload.budget slice) (toEngineTime slice.previous) slice.capacity) ∧
      (workload.run slice).2.counters.executed =
        workload.counters.executed + workload.budget slice := by
  let ready := (workload.elapse slice.current slice.previous).drain slice.previous
  have elapsed : ready.elapsed.getD 0 =
      workload.elapsed.getD 0 + (slice.current - slice.previous) :=
    congrArg (·.getD 0) (workload.elapsed_run slice)
  have same : ready.terms = workload.terms := workload.terms_run slice
  have ends : ready.reachesEnd = workload.reachesEnd := reachesEnd_eq_of_terms same
  have duration : ready.duration = workload.duration := by
    simp only [Workload.duration, placement_eq_of_terms same]
  have executed : ready.counters.executed = workload.counters.executed := by
    simp only [ready, drain, (workload.elapse_engine slice.current slice.previous).2.2.2]
  have granted : (if ready.reachesEnd (ready.elapsed.getD 0) then
        prorate slice.instructions (ready.elapsed.getD 0 - ready.duration)
          (slice.current - slice.previous)
      else slice.instructions) = workload.budget slice := by
    simp only [budget, elapsed, ends, duration]
  rw [← granted, ← executed]
  exact ⟨rfl, rfl⟩

/-- A slice asks the engine for one block, after initialising it if it is the first. -/
theorem calls_run :
    (workload.run slice).2.engine.calls =
      workload.engine.calls ++
          (if workload.elapsed = none then [.init (toEngineTime slice.previous)] else []) ++
        (workload.block slice).calls := by
  obtain ⟨-, -, pending, -⟩ := workload.elapse_engine slice.current slice.previous
  have begun : (workload.elapse slice.current slice.previous).engine.calls =
      workload.engine.calls ++
        if workload.elapsed = none then [.init (toEngineTime slice.previous)] else [] := by
    simp only [elapse]
    cases workload.elapsed with
    | none => exact Engine.calls_after _ _
    | some elapsed => exact (List.append_nil _).symm
  have handed : ((workload.elapse slice.current slice.previous).drain
      slice.previous).engine.calls =
        (workload.elapse slice.current slice.previous).engine.calls ++
          (workload.dueBefore slice.previous).map Message.arrival := by
    simp only [drain, pending]
    exact Engine.calls_handOverAll _ _
  simp [(workload.budget_run slice).1, Engine.calls_after, handed, begun, Block.calls, block]

theorem pending_run :
    (workload.run slice).2.pending =
      (workload.pending.drainWhile Message.precedes (isDue slice.previous)).2 := by
  rw [← (workload.turned_run slice).drained]

/-- What a slice adds to the counters. -/
theorem counted_run :
    (workload.run slice).2.counters =
      { workload.counters with
        ticks := workload.counters.ticks + 1
        offered := workload.counters.offered + slice.instructions
        executed := workload.counters.executed + workload.budget slice
        drained := workload.counters.drained + (workload.dueBefore slice.previous).length } := by
  obtain ⟨-, -, pending, counters⟩ := workload.elapse_engine slice.current slice.previous
  rw [← (workload.budget_run slice).2]
  simp only [run, execute, drain, pending, counters, dueBefore]

end Run

@[simp] theorem elapsed_receive (workload : Workload) (message : Message) :
    (workload.receive message).elapsed = workload.elapsed := by
  rw [receive]
  split <;> rfl

@[simp] theorem elapsed_forward (workload : Workload) (network : Network)
    (records : List Record) :
    (workload.forward network records).state.elapsed = workload.elapsed := by
  rw [forward]
  split
  · rfl
  · split <;> rfl

/-! ## Requests -/

inductive Request where
  | receive (message : Message)
  | tick (slice : Slice)
  | forward (network : Network) (records : List Record)

def Request.isReceive : Request → Bool
  | receive _ => true
  | tick _ | forward .. => false

/-- The workload after a request. -/
def perform (workload : Workload) : Request → Workload
  | .receive message => workload.receive message
  | .tick slice => (workload.tick slice).2
  | .forward network records => (workload.forward network records).state

def after (workload : Workload) (requests : List Request) : Workload :=
  requests.foldl perform workload

/-- The slice that a request makes an unfinished workload run over. -/
def ranIn (workload : Workload) : Request → Option Slice
  | .tick slice =>
      if !workload.finished && (workload.tick slice).1.isOk then some slice else none
  | .receive _ | .forward .. => none

/-- The slices that a workload runs over before it is finished. -/
def ran (workload : Workload) : List Request → List Slice
  | [] => []
  | request :: later => (workload.ranIn request).toList ++ (workload.perform request).ran later

/-- What the engine is asked for in these slices. -/
def blocks (workload : Workload) : List Request → List Block
  | [] => []
  | request :: later =>
      ((workload.ranIn request).map workload.block).toList ++
        (workload.perform request).blocks later

/-- A workload before a request, what the request does to it, and the slice it runs over. -/
inductive Performed (workload : Workload) : Request → Option Slice → Workload → Prop
  | ran {slice : Slice} (running : workload.finished = false)
      (monotone : ¬ slice.current < slice.previous) :
      Performed workload (.tick slice) (some slice) (workload.run slice).2
  | idle {slice : Slice} (still : workload.finished = true ∨ slice.current < slice.previous) :
      Performed workload (.tick slice) none workload
  | queued {message : Message} (running : workload.finished = false) :
      Performed workload (.receive message) none
        { workload with
          counters := { workload.counters with enqueued := workload.counters.enqueued + 1 }
          pending := workload.pending.push Message.precedes message }
  | dropped {message : Message} (finished : workload.finished = true) :
      Performed workload (.receive message) none
        { workload with
          counters := { workload.counters with dropped := workload.counters.dropped + 1 } }
  | forwarded {network : Network} {records : List Record} (sent : Nat) :
      Performed workload (.forward network records) none
        { workload with counters := { workload.counters with sent := sent } }

theorem tick_of_finished {workload : Workload} (finished : workload.finished = true)
    (slice : Slice) : workload.tick slice = (.ok [], workload) := by
  simp [tick, finished]

/-- A slice that ends before it starts is refused, and nothing else is. -/
theorem tick_of_backward {workload : Workload} {slice : Slice}
    (running : workload.finished = false) (backward : slice.current < slice.previous) :
    workload.tick slice =
      (.error (.nonMonotonicTime workload.id slice.previous slice.current), workload) := by
  simp [tick, running, backward]

theorem performed (workload : Workload) (request : Request) :
    workload.Performed request (workload.ranIn request) (workload.perform request) := by
  cases request with
  | receive message =>
      simp only [ranIn, perform, receive]
      split
      · rename_i finished
        exact .dropped finished
      · rename_i running
        exact .queued (Bool.eq_false_of_not_eq_true running)
  | tick slice =>
      simp only [ranIn, perform]
      cases finished : workload.finished with
      | true =>
          rw [tick_of_finished finished]
          exact .idle (.inl finished)
      | false =>
          by_cases backward : slice.current < slice.previous
          · rw [tick_of_backward finished backward]
            exact .idle (.inr backward)
          · rw [tick_of_running finished backward]
            exact .ran finished backward
  | forward network records =>
      simp only [ranIn, perform, forward]
      split
      · exact .forwarded workload.counters.sent
      · split
        · exact .forwarded workload.counters.sent
        · exact .forwarded _

/-! ## A workload of two seconds -/

def twoSeconds : Workload :=
  create 7 (.unpinned [5] 2) (.fresh 1 (Engine.relay []))

theorem new_twoSeconds : twoSeconds.New := new_create 7 _ rfl

def batchDue (time : Seconds) : Message :=
  { originVertex := 4, originTime := 0, destVertex := 5, destTime := time
    payload := { size := 1, timestamp := 0, latency := 0, totals := Table.empty } }

def sliceTo (current previous : Seconds) : Slice :=
  { instructions := 1000, current := current, previous := previous, capacity := 1 }

end Workload

end CoSimulation
