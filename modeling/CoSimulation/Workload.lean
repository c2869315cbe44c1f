import CoSimulation.Engine
import CoSimulation.Fault
import CoSimulation.Heap
import CoSimulation.Placement

/-!
# Workloads

A workload is a placement and the engine that executes it.  Its host knows only
that a slice of wall time went by and how many instructions it could spend in it;
`tick` turns that into calls on the engine:

1. the first slice initialises the engine at its start;
2. the elapsed wall time is added up;
3. messages due before the start of the slice are handed to the engine, in order;
4. once the elapsed time reaches the duration the workload is finished, and the
   last budget is cut to the share of the slice inside the duration;
5. the engine runs, and its records are returned.
-/

namespace CoSimulation

/-- How what a workload sends leaves its host. -/
inductive Transport where
  /-- Nothing is sent: all vertices of the query are in one placement. -/
  | isolated
  /-- Batches are carried over the network, each after the same delay. -/
  | networked (delay : Seconds)

namespace Transport

def isNetworked : Transport → Bool
  | networked _ => true
  | isolated => false

end Transport

/-- A slice of wall time and what a host grants in it. -/
structure Slice where
  instructions : Nat
  current : Seconds
  previous : Seconds
  /-- The speed of each PE. -/
  capacity : Binary64

/-- What a workload counts.  The counts are exact, also where 64 bits could not hold them. -/
structure WorkloadCounters where
  /-- Slices that reached the engine. -/
  ticks : Nat := 0
  /-- Instructions granted by the host. -/
  offered : Nat := 0
  /-- Instructions passed to the engine. -/
  executed : Nat := 0
  /-- Messages handed to the engine. -/
  drained : Nat := 0
  /-- Messages that arrived and were queued. -/
  enqueued : Nat := 0
  /-- Messages that arrived after the end. -/
  dropped : Nat := 0
  /-- Batches sent. -/
  sent : Nat := 0
deriving DecidableEq

structure Workload where
  id : WorkloadId
  placement : Placement
  engine : Engine
  transport : Transport
  /-- How many processing elements the workload occupies. -/
  pes : Nat
  /-- How much of the duration may be missing when the workload finishes. -/
  tolerance : Binary64
  tolerance_nonneg : 0 ≤ tolerance
  /-- Messages that wait for the engine. -/
  pending : Heap Message
  /-- Wall time executed so far; `none` until the engine is initialised. -/
  elapsed : Option Seconds
  finished : Bool
  keepsHistory : Bool
  history : List Record
  counters : WorkloadCounters

/-- The tolerance of a workload for which none is set. -/
def defaultTolerance : Binary64 := 0.01

theorem defaultTolerance_nonneg : 0 ≤ defaultTolerance := by decide +kernel

/-- The largest instruction length; what a running workload reports. -/
def unboundedLength : Nat := Binary64.countLimit

/-- The budget of the last slice: the share of the instructions that was still
inside the duration.  It stays between none and all of them. -/
def prorate (instructions : Nat) (overrun span : Seconds) : Nat :=
  if span ≤ 0 then instructions
  else
    let offered := Binary64.ofNat instructions
    ((offered - overrun * offered / span).clamp 0 offered).toCount

namespace Workload

/-- An isolated workload on one processing element. -/
def create (id : WorkloadId) (placement : Placement) (engine : Engine) : Workload :=
  { id := id
    placement := placement
    engine := engine
    transport := .isolated
    pes := 1
    tolerance := defaultTolerance
    tolerance_nonneg := defaultTolerance_nonneg
    pending := .empty
    elapsed := none
    finished := false
    keepsHistory := false
    history := []
    counters := {} }

def withTransport (workload : Workload) (transport : Transport) : Workload :=
  { workload with transport := transport }

/-- Sets how many processing elements the workload occupies, at least one. -/
def withPes (workload : Workload) (pes : Nat) : Workload :=
  { workload with pes := Nat.max pes 1 }

/-- Sets the tolerance, at least zero. -/
def withTolerance (workload : Workload) (tolerance : Binary64) : Workload :=
  { workload with
    tolerance := tolerance.max 0
    tolerance_nonneg := tolerance.max_zero_nonneg }

/-- Sets whether all records are kept. -/
def withHistory (workload : Workload) (keepsHistory : Bool) : Workload :=
  { workload with keepsHistory := keepsHistory }

def duration (workload : Workload) : Seconds := Binary64.ofNat workload.placement.duration

/-- The time until the duration is reached; zero once finished. -/
def timeToFinish (workload : Workload) : Seconds :=
  if workload.finished then 0 else workload.duration - workload.elapsed.getD 0

/-- The instructions left, as the outer simulator sees them: unbounded while the
workload runs. -/
def remainingLength (workload : Workload) : Nat :=
  if workload.finished then 0 else unboundedLength

/-- Takes in a message that reached one of the workload's vertices.  A finished
workload counts it and drops it. -/
def receive (workload : Workload) (message : Message) : Workload :=
  let counters := workload.counters
  if workload.finished then
    { workload with counters := { counters with dropped := counters.dropped + 1 } }
  else
    { workload with
      counters := { counters with enqueued := counters.enqueued + 1 }
      pending := workload.pending.push Message.precedes message }

/-- Whether a message is handed over in a slice that starts at `previous`.  One
that is due exactly then waits for the next slice. -/
def isDue (previous : Seconds) (message : Message) : Bool :=
  !(decide (previous ≤ message.destTime))

/-- An engine after a message is handed over. -/
def handOver (engine : Engine) (message : Message) : Engine :=
  engine.enqueue (toEngineTime message.destTime) message.originVertex message.destVertex
    message.payload

/-- Hands the messages that are due to the engine. -/
def drain (workload : Workload) (previous : Seconds) : Workload :=
  let (due, waiting) := workload.pending.drainWhile Message.precedes (isDue previous)
  let counters := workload.counters
  { workload with
    engine := due.foldl handOver workload.engine
    pending := waiting
    counters := { counters with drained := counters.drained + due.length } }

/-- Adds a slice to the elapsed time.  The first one initialises the engine. -/
def elapse (workload : Workload) (current previous : Seconds) : Workload :=
  match workload.elapsed with
  | some elapsed => { workload with elapsed := some (elapsed + (current - previous)) }
  | none =>
      { workload with
        engine := workload.engine.init (toEngineTime previous)
        elapsed := some (0 + (current - previous)) }

/-- Whether an elapsed time reaches the duration. -/
def reachesEnd (workload : Workload) (elapsed : Seconds) : Bool :=
  decide (workload.duration ≤ elapsed + workload.tolerance)

/-- Runs the engine over a slice that the workload has taken in already. -/
def execute (workload : Workload) (slice : Slice) : List Record × Workload :=
  let elapsed := workload.elapsed.getD 0
  let ends := workload.reachesEnd elapsed
  let budget :=
    if ends then
      prorate slice.instructions (elapsed - workload.duration) (slice.current - slice.previous)
    else slice.instructions
  let (records, engine) :=
    workload.engine.run budget (toEngineTime slice.previous) slice.capacity
  let counters := workload.counters
  (records,
    { workload with
      engine := engine
      finished := ends
      history := if workload.keepsHistory then workload.history ++ records else workload.history
      counters :=
        { counters with
          ticks := counters.ticks + 1
          offered := counters.offered + slice.instructions
          executed := counters.executed + budget } })

/-- Runs the engine over a slice of wall time.  A finished workload ignores the
call; a slice that ends before it starts is a fault. -/
def tick (workload : Workload) (slice : Slice) : Except Fault (List Record) × Workload :=
  if workload.finished then (.ok [], workload)
  else if slice.current < slice.previous then
    (.error (.nonMonotonicTime workload.id slice.previous slice.current), workload)
  else
    let (records, next) :=
      ((workload.elapse slice.current slice.previous).drain slice.previous).execute slice
    (.ok records, next)

end Workload

end CoSimulation
