import CoSimulation.Broker
import CoSimulation.Datacenter
import CoSimulation.EventQueue

/-!
# The simulation

Events are taken from the queue in order and handed to the datacenter they are
addressed to.  Faults that concern one workload are counted; fatal ones, and an
event for a datacenter that does not exist, stop the run.

`step?` handles one event.  `runUntil?` repeats it until nothing is due any more;
whether that happens depends on the datacenters' intervals, so it takes a bound on
the number of events.
-/

namespace CoSimulation

namespace EventQueue

/-- Schedules what an operation asks for. -/
def dispatch (queue : EventQueue Event) (dispatches : List Dispatch) : EventQueue Event :=
  dispatches.foldl
    (fun queue request => queue.schedule request.target request.delay request.event) queue

end EventQueue

/-- What a simulation counts. -/
structure SimulationCounters where
  /-- Events handed to datacenters. -/
  events : Nat := 0
  /-- Faults that did not stop the run. -/
  violations : Nat := 0
  /-- Workloads that finished. -/
  completions : Nat := 0
deriving DecidableEq

structure Simulation where
  queue : EventQueue Event
  datacenters : Table Datacenter
  /-- Finished workloads with their datacenters, in order of completion. -/
  completed : List (DatacenterId × WorkloadId)
  started : Bool
  counters : SimulationCounters

namespace Simulation

def empty : Simulation :=
  { queue := EventQueue.empty, datacenters := Table.empty, completed := [], started := false
    counters := {} }

instance : Inhabited Simulation := ⟨empty⟩

def now (simulation : Simulation) : Seconds := simulation.queue.now

/-- The simulation with a datacenter, in place of any it has under the same
identity. -/
def addDatacenter (simulation : Simulation) (datacenter : Datacenter) : Simulation :=
  { simulation with datacenters := simulation.datacenters.insert datacenter.id datacenter }

/-- Whether a datacenter of the simulation has the host. -/
def owns (simulation : Simulation) (datacenter : DatacenterId) (host : HostId) : Bool :=
  match simulation.datacenters.get? datacenter with
  | some found => (found.host? host).isSome
  | none => false

/-- Hands the broker's queued workloads to their datacenters and tells how many
were scheduled.  Each one that the broker rejects counts as a violation. -/
def submit (simulation : Simulation) (broker : Broker) : Nat × Simulation × Broker :=
  let (next, dispatches) := broker.submitWhere simulation.owns
  let counters := simulation.counters
  (dispatches.length,
    { simulation with
      queue := simulation.queue.dispatch dispatches
      counters :=
        { counters with
          violations :=
            counters.violations + (next.rejected.length - broker.rejected.length) } },
    next)

/-- Schedules the first housekeeping of every datacenter, once. -/
def start (simulation : Simulation) : Simulation :=
  if simulation.started then simulation
  else
    { simulation with
      started := true
      queue :=
        simulation.queue.dispatch
          (simulation.datacenters.keys.map fun datacenter =>
            { target := datacenter, delay := 0, event := .housekeeping }) }

/-- The simulation after a datacenter has reacted to an event. -/
def absorb (simulation : Simulation) (target : DatacenterId)
    (reaction : Reaction Datacenter Unit) : Simulation :=
  let (finished, datacenter) := reaction.state.takeCompleted
  let counters := simulation.counters
  { simulation with
    queue := simulation.queue.dispatch reaction.dispatches
    datacenters := simulation.datacenters.insert target datacenter
    completed := simulation.completed ++ finished.map (fun workload => (target, workload))
    counters :=
      { counters with
        events := counters.events + 1
        completions := counters.completions + finished.length } }

/-- The simulation with one more violation. -/
def violated (simulation : Simulation) : Simulation :=
  let counters := simulation.counters
  { simulation with counters := { counters with violations := counters.violations + 1 } }

/-- Handles one event that was taken from the queue.  A fault stops the run. -/
def process (simulation : Simulation) (registry : Registry) (entry : Scheduled Event) :
    Option Fault × Simulation :=
  match simulation.datacenters.get? entry.target with
  | none => (some (.unknownDatacenter entry.target), simulation)
  | some datacenter =>
      let reaction := datacenter.handle { registry := registry, now := simulation.now } entry.event
      let next := simulation.absorb entry.target reaction
      match reaction.result with
      | .ok _ => (none, next)
      | .error fault => if fault.isFatal then (some fault, next) else (none, next.violated)

/-- Handles the next event, if it is not due after `limit`. -/
def step? (simulation : Simulation) (registry : Registry) (limit : Seconds) :
    Option (Option Fault × Simulation) :=
  match simulation.queue.pop? with
  | none => none
  | some (entry, queue) =>
      if limit < entry.time then none
      else some (({ simulation with queue := queue }).process registry entry)

/-- Handles events until none is due up to `limit` or a fault stops the run; no
result if that takes more than `bound` events. -/
def continue? (registry : Registry) (limit : Seconds) :
    Nat → Simulation → Option (Except Fault Seconds × Simulation)
  | 0, _ => none
  | bound + 1, simulation =>
      match simulation.step? registry limit with
      | none => some (.ok simulation.now, simulation)
      | some (some fault, next) => some (.error fault, next)
      | some (none, next) => continue? registry limit bound next

/-- Starts the simulation, if it has not started, and handles the events up to and
including `limit`.  The result is the clock after the last of them. -/
def runUntil? (simulation : Simulation) (registry : Registry) (limit : Seconds)
    (bound : Nat) : Option (Except Fault Seconds × Simulation) :=
  continue? registry limit bound simulation.start

end Simulation

end CoSimulation
