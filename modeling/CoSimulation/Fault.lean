import CoSimulation.Identity
import CoSimulation.Time
import CoSimulation.Decimal.Format

/-!
# Faults

What can go wrong while workloads run.  Contract faults concern one workload, and
the others keep running.  The two fatal faults mean that the registry and a
datacenter disagree about where a vertex is; no run can go on after one.
-/

namespace CoSimulation

inductive Fault where
  | nonMonotonicTime (workload : WorkloadId) (previous current : Seconds)
  | workloadReclaimed (workload : WorkloadId)
  | workloadStillRunning (workload : WorkloadId)
  | unknownWorkload (workload : WorkloadId)
  | duplicateWorkload (workload : WorkloadId)
  | unknownHost (host : HostId)
  | unknownDatacenter (datacenter : DatacenterId)
  | vertexAlreadyPlaced (vertex : VertexId) (host existing : HostId)
  | unresolvedDestination (vertex : VertexId)
  | vertexNotRouted (vertex : VertexId)
deriving DecidableEq

namespace Fault

/-- Whether the fault means that the whole run is corrupt. -/
def isFatal : Fault → Bool
  | unresolvedDestination _ | vertexNotRouted _ => true
  | _ => false

def message : Fault → String
  | nonMonotonicTime workload previous current =>
      let ends := NumberFormat.plain.write current
      let starts := NumberFormat.plain.write previous
      s!"workload {workload}: tick ends at {ends} before it starts at {starts}"
  | workloadReclaimed workload => s!"workload {workload} has already been reclaimed"
  | workloadStillRunning workload =>
      s!"workload {workload} is still running and cannot be reclaimed"
  | unknownWorkload workload => s!"workload {workload} is not known to this scheduler"
  | duplicateWorkload workload => s!"workload {workload} was submitted twice"
  | unknownHost host => s!"host {host} is not registered"
  | unknownDatacenter datacenter => s!"datacenter {datacenter} is not registered"
  | vertexAlreadyPlaced vertex host existing =>
      s!"vertex {vertex} cannot move to host {host}, already placed on host {existing}"
  | unresolvedDestination vertex => s!"destination vertex {vertex} has no registered host"
  | vertexNotRouted vertex =>
      s!"vertex {vertex} is not routed to any workload in this datacenter"

/-- Keeps the first fault, unless a later one is fatal and the kept one is not. -/
def keepWorst (kept : Option Fault) (later : Fault) : Option Fault :=
  match kept with
  | none => some later
  | some fault => if later.isFatal && !fault.isFatal then some later else some fault

/-- The fault to report of several, in the order they arose: the first fatal one,
or else the first. -/
def worst? (faults : List Fault) : Option Fault := faults.foldl keepWorst none

end Fault

/-- Success, unless there is a fault to report. -/
def reportWorst {α : Type} (faults : List Fault) (value : α) : Except Fault α :=
  match Fault.worst? faults with
  | some fault => .error fault
  | none => .ok value

end CoSimulation
