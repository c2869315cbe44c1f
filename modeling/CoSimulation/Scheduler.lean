import CoSimulation.Network

/-!
# Host schedulers

A scheduler shares one host between the workloads placed on it.  Every tick it
turns the wall time since its previous tick into an instruction budget for each
running workload, ticks each of them once, sets the finished ones aside, and tells
when it wants to be woken next.

The capacity of one PE is the host's total split evenly over the PEs in use, but
never over fewer PEs than the host has powered.
-/

namespace CoSimulation

/-- Capacities are in millions of instructions per second. -/
def instructionsPerCapacity : Binary64 := 1000000

/-- The smallest wake-up gap of a host for which none is set. -/
def defaultGap : Seconds := 0.01

/-- The instructions that `pes` PEs can execute during `span`. -/
def instructionBudget (capacity : Binary64) (span : Seconds) (pes : Nat) : Nat :=
  (capacity * span * Binary64.ofNat pes * instructionsPerCapacity).toCount

/-- The least of several numbers, if there are any. -/
def least? : List Binary64 → Option Binary64
  | [] => none
  | first :: rest => some (rest.foldl Binary64.min first)

/-- What a scheduler counts.  The counts are exact, also where 64 bits could not hold them. -/
structure SchedulerCounters where
  ticks : Nat := 0
  /-- Ticks of workloads. -/
  workloadTicks : Nat := 0
  /-- Instructions granted. -/
  granted : Nat := 0
  /-- Records returned by the engines. -/
  records : Nat := 0
  /-- Workloads signalled as complete. -/
  completions : Nat := 0
  /-- Finished workloads handed back. -/
  reclaims : Nat := 0
  /-- Faults of workloads during ticks. -/
  faults : Nat := 0
deriving DecidableEq

structure Scheduler where
  /-- Running workloads in submission order. -/
  active : List Workload
  /-- Finished workloads that wait to be reclaimed. -/
  finished : Table Workload
  /-- Workloads signalled as complete at any time. -/
  signalled : List WorkloadId
  /-- Completions that nobody has collected yet. -/
  completed : List WorkloadId
  reclaimed : List WorkloadId
  /-- When the previous tick was. -/
  previous : Seconds
  /-- The smallest gap between a tick and the wake-up it asks for. -/
  gap : Seconds
  /-- The capacity of one PE at the last tick. -/
  lastCapacity : Binary64
  counters : SchedulerCounters

/-- What one workload's share of a tick leaves behind. -/
structure Turn where
  workload : Workload
  dispatches : List Dispatch
  granted : Nat
  /-- How many records the engine returned. -/
  records : Nat
  fault : Option Fault

namespace Workload

/-- A workload's share of its host's tick: one tick with its budget, and if that
succeeds its records are forwarded. -/
def turn (workload : Workload) (network : Network) (time previous : Seconds)
    (capacity : Binary64) : Turn :=
  let instructions := instructionBudget capacity (time - previous) workload.pes
  let slice : Slice :=
    { instructions := instructions, current := time, previous := previous, capacity := capacity }
  match workload.tick slice with
  | (.error fault, next) =>
      { workload := next, dispatches := [], granted := instructions, records := 0
        fault := some fault }
  | (.ok records, next) =>
      let forwarded := next.forward network records
      { workload := forwarded.state
        dispatches := forwarded.dispatches
        granted := instructions
        records := records.length
        fault := match forwarded.result with
          | .error fault => some fault
          | .ok _ => none }

/-- When a running workload wants its host to be woken: at its estimated end, but
not before `floor`. -/
def wakeUp (workload : Workload) (time floor : Seconds) : Seconds :=
  (time + workload.timeToFinish).max floor

end Workload

namespace Scheduler

def create (gap : Seconds) : Scheduler :=
  { active := [], finished := Table.empty, signalled := [], completed := [], reclaimed := []
    previous := 0, gap := gap, lastCapacity := 0, counters := {} }

def isActive (scheduler : Scheduler) (workload : WorkloadId) : Bool :=
  scheduler.active.any (fun candidate => candidate.id == workload)

/-- Whether the workload was ever submitted here. -/
def contains (scheduler : Scheduler) (workload : WorkloadId) : Bool :=
  scheduler.isActive workload || scheduler.finished.contains workload ||
    scheduler.reclaimed.contains workload

/-- The workload, if it was submitted here and is not reclaimed. -/
def workload? (scheduler : Scheduler) (workload : WorkloadId) : Option Workload :=
  match scheduler.active.find? (fun candidate => candidate.id == workload) with
  | some found => some found
  | none => scheduler.finished.get? workload

/-- The first of a list of workloads that has the identity, replaced. -/
def replaceFirst (workload : WorkloadId) (replacement : Workload) :
    List Workload → List Workload
  | [] => []
  | candidate :: rest =>
      if candidate.id == workload then replacement :: rest
      else candidate :: replaceFirst workload replacement rest

/-- Lets a function act on a workload that is running or finished. -/
def modify {α : Type} (scheduler : Scheduler) (workload : WorkloadId)
    (action : Workload → α × Workload) : Except Fault (α × Scheduler) :=
  if scheduler.reclaimed.contains workload then .error (.workloadReclaimed workload)
  else
    match scheduler.active.find? (fun candidate => candidate.id == workload) with
    | some found =>
        let (value, next) := action found
        .ok (value, { scheduler with active := replaceFirst workload next scheduler.active })
    | none =>
        match scheduler.finished.get? workload with
        | some found =>
            let (value, next) := action found
            .ok (value, { scheduler with finished := scheduler.finished.insert workload next })
        | none => .error (.unknownWorkload workload)

/-- Queues a message on one of the host's workloads. -/
def deliver (scheduler : Scheduler) (workload : WorkloadId) (message : Message) :
    Except Fault Scheduler :=
  (scheduler.modify workload fun found => ((), found.receive message)).map Prod.snd

/-- The capacity of one PE for the given share; zero if there is nothing to divide
by. -/
def capacity (scheduler : Scheduler) (mips : List Binary64) : Binary64 :=
  let powered := mips.countP (fun share => decide (0 < share))
  let inUse := sumOf (scheduler.active.map Workload.pes)
  let divisor := Nat.max inUse powered
  if divisor = 0 then 0 else Binary64.total mips / Binary64.ofNat divisor

/-- Marks a workload complete.  Tells whether it was not marked before. -/
def signal (scheduler : Scheduler) (workload : WorkloadId) : Bool × Scheduler :=
  if scheduler.signalled.contains workload then (false, scheduler)
  else
    let counters := scheduler.counters
    (true,
      { scheduler with
        signalled := workload :: scheduler.signalled
        completed := scheduler.completed ++ [workload]
        counters := { counters with completions := counters.completions + 1 } })

/-- Collects the completions since the last collection. -/
def takeCompleted (scheduler : Scheduler) : List WorkloadId × Scheduler :=
  (scheduler.completed, { scheduler with completed := [] })

/-- Takes in a workload and gives the first estimate of its end. -/
def submit (scheduler : Scheduler) (workload : Workload) :
    Except Fault (Seconds × Scheduler) :=
  if scheduler.contains workload.id then .error (.duplicateWorkload workload.id)
  else
    .ok (workload.duration, { scheduler with active := scheduler.active ++ [workload] })

/-- Hands a finished workload back, once. -/
def reclaim (scheduler : Scheduler) (workload : WorkloadId) :
    Except Fault (Workload × Scheduler) :=
  match scheduler.finished.get? workload with
  | some found =>
      let counters := scheduler.counters
      .ok (found,
        { scheduler with
          finished := scheduler.finished.erase workload
          reclaimed := workload :: scheduler.reclaimed
          counters := { counters with reclaims := counters.reclaims + 1 } })
  | none =>
      if scheduler.reclaimed.contains workload then .error (.workloadReclaimed workload)
      else if scheduler.isActive workload then .error (.workloadStillRunning workload)
      else .error (.unknownWorkload workload)

/-- Sets a finished workload aside and signals its completion. -/
def retire (scheduler : Scheduler) (workload : Workload) : Scheduler :=
  let signalled := (scheduler.signal workload.id).2
  { signalled with finished := signalled.finished.insert workload.id workload }

/-- The turns that the running workloads take in a tick. -/
def turns (scheduler : Scheduler) (network : Network) (time : Seconds)
    (mips : List Binary64) : List Turn :=
  scheduler.active.map fun workload =>
    workload.turn network time scheduler.previous (scheduler.capacity mips)

/-- Advances every running workload to `time` and tells when the host wants to be
woken, if anything is left to run. -/
def tick (scheduler : Scheduler) (network : Network) (time : Seconds)
    (mips : List Binary64) : Reaction Scheduler (Option Seconds) :=
  let turns := scheduler.turns network time mips
  let faults := turns.filterMap Turn.fault
  let workloads := turns.map Turn.workload
  let counters := scheduler.counters
  let ticked : Scheduler :=
    { scheduler with
      active := workloads.filter (fun workload => !workload.finished)
      previous := time
      lastCapacity := scheduler.capacity mips
      counters :=
        { counters with
          ticks := counters.ticks + 1
          workloadTicks := counters.workloadTicks + turns.length
          granted := counters.granted + sumOf (turns.map Turn.granted)
          records := counters.records + sumOf (turns.map Turn.records)
          faults := counters.faults + faults.length } }
  let next := (workloads.filter Workload.finished).foldl retire ticked
  let floor := time + scheduler.gap
  { state := next
    dispatches := turns.flatMap Turn.dispatches
    result :=
      reportWorst faults
        (least? (next.active.map (fun workload => workload.wakeUp time floor))) }

end Scheduler

end CoSimulation
