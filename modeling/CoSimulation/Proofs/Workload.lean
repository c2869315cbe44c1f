import CoSimulation.Scheduler
import CoSimulation.Proofs.Binary64.Instant

/-!
# What a workload keeps and what can go wrong

A workload's terms never change.  In a slice that does not end before it starts the
only fault is a destination that was never placed, and everything a workload
dispatches is a message to the datacenter that owns the destination's host.
-/

namespace CoSimulation

open Binary64

/-! ## Deliveries -/

/-- The dispatch is a message for a placed vertex, addressed to the datacenter of the
vertex's host. -/
def Dispatch.IsDelivery (registry : Registry) (dispatch : Dispatch) : Prop :=
  ∃ message location, dispatch.event = .deliver message ∧
    registry.resolve? message.destVertex = some location ∧
      dispatch.target = location.datacenter

namespace Network

variable {network : Network} {delay : Seconds}

theorem send_isDelivery {time : Milliseconds} {origin dest : VertexId} {payload : Batch}
    {dispatch : Dispatch} (sent : network.send delay time origin dest payload = .ok dispatch) :
    dispatch.IsDelivery network.registry := by
  rw [send] at sent
  split at sent
  · cases sent
  · rename_i location resolved
    cases sent
    exact ⟨_, location, rfl, resolved, rfl⟩

theorem send_fault {time : Milliseconds} {origin dest : VertexId} {payload : Batch}
    {fault : Fault} (failed : network.send delay time origin dest payload = .error fault) :
    fault = .unresolvedDestination dest := by
  rw [send] at failed
  split at failed
  · cases failed
    rfl
  · cases failed

theorem sendAll_isDelivery (records : List Record) :
    ∀ dispatch ∈ (network.sendAll delay records).1, dispatch.IsDelivery network.registry := by
  induction records with
  | nil => simp [sendAll]
  | cons record records induction =>
      cases record with
      | sent time origin dest payload =>
          rw [sendAll]
          split
          · simp
          · rename_i first sent
            intro dispatch member
            rcases List.mem_cons.1 member with same | later
            · rw [same]
              exact send_isDelivery sent
            · exact induction dispatch later
      | produced | processed | consumed | received => exact induction

theorem sendAll_fault (records : List Record) {fault : Fault}
    (failed : (network.sendAll delay records).2 = some fault) :
    ∃ vertex, fault = .unresolvedDestination vertex := by
  induction records with
  | nil => simp [sendAll] at failed
  | cons record records induction =>
      cases record with
      | sent time origin dest payload =>
          rw [sendAll] at failed
          split at failed
          · rename_i refused unsent
            cases failed
            exact ⟨dest, send_fault unsent⟩
          · exact induction failed
      | produced | processed | consumed | received => exact induction failed

end Network

namespace Workload

/-! ## Terms -/

/-- What is settled about a workload when it is queued. -/
structure Terms where
  id : WorkloadId
  placement : Placement
  transport : Transport
  pes : Nat
  tolerance : Binary64
  keepsHistory : Bool

def terms (workload : Workload) : Terms :=
  { id := workload.id
    placement := workload.placement
    transport := workload.transport
    pes := workload.pes
    tolerance := workload.tolerance
    keepsHistory := workload.keepsHistory }

section Terms

variable {left right : Workload} (same : left.terms = right.terms)
include same

theorem id_eq_of_terms : left.id = right.id := congrArg Terms.id same

theorem placement_eq_of_terms : left.placement = right.placement :=
  congrArg Terms.placement same

theorem transport_eq_of_terms : left.transport = right.transport :=
  congrArg Terms.transport same

end Terms

@[simp] theorem terms_receive (workload : Workload) (message : Message) :
    (workload.receive message).terms = workload.terms := by
  rw [receive]
  split <;> rfl

@[simp] theorem terms_elapse (workload : Workload) (current previous : Seconds) :
    (workload.elapse current previous).terms = workload.terms := by
  rw [elapse]
  split <;> rfl

@[simp] theorem terms_drain (workload : Workload) (previous : Seconds) :
    (workload.drain previous).terms = workload.terms := rfl

@[simp] theorem terms_execute (workload : Workload) (slice : Slice) :
    (workload.execute slice).2.terms = workload.terms := rfl

@[simp] theorem terms_tick (workload : Workload) (slice : Slice) :
    (workload.tick slice).2.terms = workload.terms := by
  rw [tick]
  split
  · rfl
  · split
    · rfl
    · exact (terms_execute _ _).trans ((terms_drain _ _).trans (terms_elapse _ _ _))

@[simp] theorem terms_forward (workload : Workload) (network : Network)
    (records : List Record) : (workload.forward network records).state.terms = workload.terms := by
  rw [forward]
  split
  · rfl
  · split <;> rfl

@[simp] theorem finished_forward (workload : Workload) (network : Network)
    (records : List Record) :
    (workload.forward network records).state.finished = workload.finished := by
  rw [forward]
  split
  · rfl
  · split <;> rfl

@[simp] theorem finished_receive (workload : Workload) (message : Message) :
    (workload.receive message).finished = workload.finished := by
  rw [receive]
  split <;> rfl

/-! ## Forwarding -/

theorem forward_isDelivery (workload : Workload) (network : Network) (records : List Record) :
    ∀ dispatch ∈ (workload.forward network records).dispatches,
      dispatch.IsDelivery network.registry := by
  rw [forward]
  split
  · simp
  · rename_i delay transport
    have all : ∀ dispatch ∈ (network.sendAll delay records).1,
        dispatch.IsDelivery network.registry := Network.sendAll_isDelivery records
    split
    · rename_i dispatches fault sent
      rw [sent] at all
      exact all
    · rename_i dispatches sent
      rw [sent] at all
      exact all

theorem forward_fault {workload : Workload} {network : Network} {records : List Record}
    {fault : Fault} (failed : (workload.forward network records).result = .error fault) :
    ∃ vertex, fault = .unresolvedDestination vertex := by
  rw [forward] at failed
  split at failed
  · cases failed
  · split at failed
    · rename_i delay transport dispatches refused sent
      cases failed
      exact Network.sendAll_fault records (congrArg Prod.snd sent)
    · cases failed

/-! ## A turn -/

/-- What the engine reports in a slice and the workload after it. -/
def run (workload : Workload) (slice : Slice) : List Record × Workload :=
  ((workload.elapse slice.current slice.previous).drain slice.previous).execute slice

theorem tick_of_running {workload : Workload} {slice : Slice}
    (running : workload.finished = false) (monotone : ¬ slice.current < slice.previous) :
    workload.tick slice = (.ok (workload.run slice).1, (workload.run slice).2) := by
  rw [tick, if_neg (by simp [running]), if_neg monotone]
  rfl

section Turn

variable (workload : Workload) (network : Network) (time previous : Seconds)
  (capacity : Binary64)

def sliceOf : Slice :=
  { instructions := instructionBudget capacity (time - previous) workload.pes
    current := time, previous := previous, capacity := capacity }

@[simp] theorem terms_turn :
    (workload.turn network time previous capacity).workload.terms = workload.terms := by
  have ticked := workload.terms_tick (workload.sliceOf time previous capacity)
  rw [sliceOf] at ticked
  simp only [turn]
  split
  · rename_i fault next outcome
    rw [outcome] at ticked
    exact ticked
  · rename_i records next outcome
    rw [outcome] at ticked
    exact (terms_forward _ _ _).trans ticked

@[simp] theorem finished_turn :
    (workload.turn network time previous capacity).workload.finished =
      (workload.tick (workload.sliceOf time previous capacity)).2.finished := by
  rw [sliceOf]
  simp only [turn]
  split
  · rename_i fault next outcome
    rw [outcome]
  · rename_i records next outcome
    rw [outcome]
    exact finished_forward _ _ _

theorem turn_isDelivery :
    ∀ dispatch ∈ (workload.turn network time previous capacity).dispatches,
      dispatch.IsDelivery network.registry := by
  simp only [turn]
  split
  · simp
  · exact forward_isDelivery _ _ _

variable {workload network time previous capacity}

/-- A turn of a running workload runs the engine and forwards what it reports. -/
theorem turn_of_running (running : workload.finished = false)
    (monotone : ¬ time < previous) :
    let ran := workload.run (workload.sliceOf time previous capacity)
    let forwarded := ran.2.forward network ran.1
    workload.turn network time previous capacity =
      { workload := forwarded.state
        dispatches := forwarded.dispatches
        granted := instructionBudget capacity (time - previous) workload.pes
        records := ran.1.length
        fault := match forwarded.result with
          | .error fault => some fault
          | .ok _ => none } := by
  have ticked : workload.tick (workload.sliceOf time previous capacity) =
      (.ok (workload.run (workload.sliceOf time previous capacity)).1,
        (workload.run (workload.sliceOf time previous capacity)).2) :=
    tick_of_running running monotone
  simp only [turn]
  rewrite [← sliceOf, ticked]
  rfl

theorem turn_fault (running : workload.finished = false) (monotone : ¬ time < previous)
    {fault : Fault}
    (failed : (workload.turn network time previous capacity).fault = some fault) :
    ∃ vertex, fault = .unresolvedDestination vertex := by
  rw [turn_of_running running monotone] at failed
  simp only at failed
  split at failed
  · rename_i refused result
    cases failed
    exact forward_fault result
  · cases failed

end Turn

end Workload

end CoSimulation
