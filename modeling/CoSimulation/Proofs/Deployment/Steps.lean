import CoSimulation.Deployment
import CoSimulation.Proofs.Broker

/-!
# Operations on a deployment

Between its assembly and the end a deployment is worked with by queueing workloads,
submitting what is queued, running, and reclaiming finished workloads, in any order.
A run is made of single events and may be cut off after any number of them, so the
states within a run are among those that operations lead to.

`Step` splits the operations up: a round considers one workload after the other, and
a run handles one event after the other.  What every step keeps holds after any
operations.
-/

namespace CoSimulation

/-- Something that is done with a deployment. -/
inductive Operation where
  | queue (id : WorkloadId) (placement : Placement) (label : Nat)
    (respond : List Call → List Record)
  | submit
  /-- Handles the events up to `limit`, at most `bound` of them. -/
  | run (limit : Seconds) (bound : Nat)
  | reclaim (datacenter : DatacenterId) (workload : WorkloadId)

namespace Simulation

@[simp] theorem started_start (simulation : Simulation) : simulation.start.started = true := by
  rw [start]
  split
  · assumption
  · rfl

theorem started_of_step? {simulation next : Simulation} {registry : Registry}
    {limit : Seconds} {fault : Option Fault}
    (stepped : simulation.step? registry limit = some (fault, next)) :
    next.started = simulation.started := by
  rw [step?] at stepped
  split at stepped
  · cases stepped
  · split at stepped
    · cases stepped
    · rw [Option.some.injEq, process] at stepped
      split at stepped
      · cases stepped
        rfl
      · simp only at stepped
        split at stepped
        · cases stepped
          rfl
        · split at stepped <;> cases stepped <;> rfl

/-- Handles events until none is due up to `limit`, a fault stops the run or `bound`
events were handled. -/
def advance (registry : Registry) (limit : Seconds) :
    Nat → Simulation → Option Fault × Simulation
  | 0, simulation => (none, simulation)
  | bound + 1, simulation =>
      match simulation.step? registry limit with
      | none => (none, simulation)
      | some (some fault, next) => (some fault, next)
      | some (none, next) => advance registry limit bound next

theorem started_advance {registry : Registry} {limit : Seconds} {bound : Nat}
    {simulation : Simulation} :
    (simulation.advance registry limit bound).2.started = simulation.started := by
  induction bound generalizing simulation with
  | zero => rfl
  | succ bound induction =>
      rw [advance]
      split
      · rfl
      · rename_i fault next stepped
        exact started_of_step? stepped
      · rename_i next stepped
        exact induction.trans (started_of_step? stepped)

/-- The result of a run that came to its end. -/
theorem advance_of_continue? {registry : Registry} {limit : Seconds} {bound : Nat}
    {simulation next : Simulation} {result : Except Fault Seconds}
    (ran : continue? registry limit bound simulation = some (result, next)) :
    (∃ fault, result = .error fault ∧
      simulation.advance registry limit bound = (some fault, next)) ∨
    (result = .ok next.now ∧ next.step? registry limit = none ∧
      simulation.advance registry limit bound = (none, next)) := by
  induction bound generalizing simulation with
  | zero => cases ran
  | succ bound induction =>
      rw [continue?] at ran
      rw [advance]
      cases stepped : simulation.step? registry limit with
      | none =>
          rw [stepped] at ran
          cases ran
          exact .inr ⟨rfl, stepped, rfl⟩
      | some outcome =>
          obtain ⟨fault, after⟩ := outcome
          rw [stepped] at ran
          cases fault with
          | some fault =>
              cases ran
              exact .inl ⟨fault, rfl, rfl⟩
          | none => exact induction ran

end Simulation

namespace Deployment

/-- Takes a finished workload out of a datacenter. -/
def reclaim (deployment : Deployment) (datacenter : DatacenterId) (workload : WorkloadId) :
    Option Fault × Deployment :=
  match deployment.simulation.datacenters.get? datacenter with
  | none => (none, deployment)
  | some found =>
      match found.reclaim workload with
      | .error fault => (some fault, deployment)
      | .ok (_, next) =>
          let simulation := deployment.simulation
          (none,
            { deployment with
              simulation :=
                { simulation with
                  datacenters := simulation.datacenters.insert datacenter next } })

/-- Runs the simulation up to a time, but for at most `bound` events. -/
def advance (deployment : Deployment) (limit : Seconds) (bound : Nat) :
    Option Fault × Deployment :=
  let (fault, simulation) :=
    deployment.simulation.start.advance deployment.broker.registry limit bound
  (fault, { deployment with simulation := simulation })

/-- An operation, its fault if it fails, and the deployment after it. -/
def perform (deployment : Deployment) : Operation → Option Fault × Deployment
  | .queue id placement label respond =>
      (none, deployment.queue id placement (Engine.fresh label respond))
  | .submit => (none, deployment.submit.2)
  | .run limit bound => deployment.advance limit bound
  | .reclaim datacenter workload => deployment.reclaim datacenter workload

def after (deployment : Deployment) : List Operation → Deployment
  | [] => deployment
  | operation :: rest => (deployment.perform operation).2.after rest

def faults (deployment : Deployment) : List Operation → List Fault
  | [] => []
  | operation :: rest =>
      (deployment.perform operation).1.toList ++ (deployment.perform operation).2.faults rest

/-- The workload is as it was queued. -/
def Issued (deployment : Deployment) (workload : Workload) : Prop :=
  ∃ id placement label respond,
    workload = deployment.workload id placement (Engine.fresh label respond)

/-! ## Rounds -/

/-- The deployment with nothing waiting for a round. -/
def gathered (deployment : Deployment) : Deployment :=
  { deployment with broker := { deployment.broker with pending := [] } }

/-- The deployment after the broker has considered a workload. -/
def considered (deployment : Deployment) (next : Broker) (dispatches : List Dispatch) :
    Deployment :=
  let simulation := deployment.simulation
  let counters := simulation.counters
  { deployment with
    broker := next
    simulation :=
      { simulation with
        queue := simulation.queue.dispatch dispatches
        counters :=
          { counters with
            violations :=
              counters.violations +
                (next.rejected.length - deployment.broker.rejected.length) } } }

def consider (deployment : Deployment) (workload : Workload) : Deployment :=
  let result := deployment.broker.consider deployment.simulation.owns workload
  deployment.considered result.1 result.2

theorem consider_rejected_le (deployment : Deployment) (workload : Workload) :
    deployment.broker.rejected.length ≤
      (deployment.consider workload).broker.rejected.length :=
  (Broker.consider_considered _ _ workload).rejected_le

theorem considered_considered {deployment : Deployment} {first second : Broker}
    (rejected : deployment.broker.rejected.length ≤ first.rejected.length)
    (further : first.rejected.length ≤ second.rejected.length)
    (early late : List Dispatch) :
    (deployment.considered first early).considered second late =
      deployment.considered second (early ++ late) := by
  simp only [considered, EventQueue.dispatch, List.foldl_append]
  congr 3
  omega

theorem foldl_consider (workloads : List Workload) (deployment : Deployment) :
    let result :=
      Broker.considerAll deployment.simulation.owns deployment.broker workloads
    deployment.broker.rejected.length ≤ result.1.rejected.length ∧
      workloads.foldl consider deployment = deployment.considered result.1 result.2 := by
  induction workloads generalizing deployment with
  | nil =>
      refine ⟨Nat.le_refl _, ?_⟩
      simp [Broker.considerAll, considered, EventQueue.dispatch]
  | cons workload workloads induction =>
      have first := deployment.consider_rejected_le workload
      obtain ⟨further, folded⟩ := induction (deployment.consider workload)
      refine ⟨Nat.le_trans first further, ?_⟩
      rw [List.foldl_cons, folded]
      exact considered_considered first further _ _

theorem submit_eq (deployment : Deployment) :
    deployment.submit.2 = deployment.broker.pending.foldl consider deployment.gathered :=
  (foldl_consider deployment.broker.pending deployment.gathered).2.symm

/-! ## Steps -/

/-- A step of an operation, and its fault if it has one. -/
inductive Step : Deployment → Option Fault → Deployment → Prop where
  | queued (deployment : Deployment) (id : WorkloadId) (placement : Placement) (label : Nat)
      (respond : List Call → List Record) :
      Step deployment none (deployment.queue id placement (Engine.fresh label respond))
  | gathered (deployment : Deployment) : Step deployment none deployment.gathered
  | considered {deployment : Deployment} {workload : Workload} {next : Broker}
      {dispatches : List Dispatch} (issued : deployment.Issued workload)
      (considered : Broker.Considered deployment.simulation.owns deployment.broker workload
        next dispatches) :
      Step deployment none (deployment.considered next dispatches)
  | started (deployment : Deployment) :
      Step deployment none { deployment with simulation := deployment.simulation.start }
  | ran {deployment : Deployment} {limit : Seconds} {fault : Option Fault}
      {next : Simulation} (running : deployment.simulation.started = true)
      (stepped : deployment.simulation.step? deployment.broker.registry limit =
        some (fault, next)) :
      Step deployment fault { deployment with simulation := next }
  | reclaimed (deployment : Deployment) (datacenter : DatacenterId)
      (workload : WorkloadId) :
      Step deployment (deployment.reclaim datacenter workload).1
        (deployment.reclaim datacenter workload).2

theorem Step.delay {before after : Deployment} {fault : Option Fault}
    (step : Step before fault after) : after.delay = before.delay := by
  cases step with
  | queued | gathered | considered | started | ran => rfl
  | reclaimed datacenter workload =>
      rw [reclaim]
      split
      · rfl
      · split <;> rfl

inductive Steps : Deployment → List Fault → Deployment → Prop where
  | refl (deployment : Deployment) : Steps deployment [] deployment
  | head {first second third : Deployment} {fault : Option Fault} {faults : List Fault} :
      Step first fault second → Steps second faults third →
      Steps first (fault.toList ++ faults) third

namespace Steps

variable {first second third : Deployment} {early late : List Fault}

theorem trans (steps : Steps first early second) (more : Steps second late third) :
    Steps first (early ++ late) third := by
  induction steps with
  | refl => exact more
  | head step _ induction =>
      rw [List.append_assoc]
      exact .head step (induction more)

theorem single {fault : Option Fault} (step : Step first fault second) :
    Steps first fault.toList second := by
  rw [← List.append_nil fault.toList]
  exact .head step (.refl second)

/-- What every step keeps whose fault is among the allowed ones holds after steps
that have no other faults. -/
theorem keep (steps : Steps first early second) (property : Deployment → Prop)
    (allowed : Fault → Prop) (known : ∀ fault ∈ early, allowed fault)
    (kept : ∀ {before fault after}, property before → Step before fault after →
      (∀ raised ∈ fault, allowed raised) → property after)
    (holds : property first) : property second := by
  induction steps with
  | refl => exact holds
  | head step _ induction =>
      refine induction (fun fault later => known fault (List.mem_append_right _ later)) ?_
      refine kept holds step fun raised now => known raised (List.mem_append_left _ ?_)
      exact Option.mem_toList.2 now

end Steps

/-! ## Operations are made of steps -/

/-- Everything that waits for a round is as it was queued. -/
def WaitsIssued (deployment : Deployment) : Prop :=
  ∀ workload ∈ deployment.broker.pending, deployment.Issued workload

theorem foldl_consider_steps {workloads : List Workload} {deployment : Deployment}
    (issued : ∀ workload ∈ workloads, deployment.Issued workload)
    (waits : deployment.WaitsIssued) :
    Steps deployment [] (workloads.foldl consider deployment) ∧
      (workloads.foldl consider deployment).WaitsIssued := by
  induction workloads generalizing deployment with
  | nil => exact ⟨.refl deployment, waits⟩
  | cons workload workloads induction =>
      have first : deployment.Issued workload := issued workload List.mem_cons_self
      have considered := Broker.consider_considered deployment.simulation.owns
        deployment.broker workload
      have waiting : (deployment.consider workload).WaitsIssued := by
        intro other member
        rcases considered.pending other member with old | new
        · exact waits other old
        · exact new ▸ first
      have rest : ∀ other ∈ workloads, (deployment.consider workload).Issued other :=
        fun other member => issued other (List.mem_cons_of_mem _ member)
      obtain ⟨steps, after⟩ := induction rest waiting
      exact ⟨.head (.considered first considered) steps, after⟩

theorem advance_steps {deployment : Deployment} {limit : Seconds} {bound : Nat}
    (running : deployment.simulation.started = true) :
    Steps deployment
      (deployment.simulation.advance deployment.broker.registry limit bound).1.toList
      { deployment with
        simulation :=
          (deployment.simulation.advance deployment.broker.registry limit bound).2 } := by
  induction bound generalizing deployment with
  | zero => exact .refl deployment
  | succ bound induction =>
      rw [Simulation.advance]
      split
      · exact .refl deployment
      · rename_i fault next stepped
        exact .single (.ran running stepped)
      · rename_i next stepped
        let after : Deployment := { deployment with simulation := next }
        have rest : Steps after
            (after.simulation.advance after.broker.registry limit bound).1.toList
            { after with
              simulation :=
                (after.simulation.advance after.broker.registry limit bound).2 } :=
          induction ((Simulation.started_of_step? stepped).trans running)
        exact .head (.ran running stepped) rest

theorem perform_steps {deployment : Deployment} (waits : deployment.WaitsIssued)
    (operation : Operation) :
    Steps deployment (deployment.perform operation).1.toList (deployment.perform operation).2 ∧
      (deployment.perform operation).2.WaitsIssued := by
  cases operation with
  | queue id placement label respond =>
      refine ⟨.single (.queued deployment id placement label respond), fun other member => ?_⟩
      rcases List.mem_append.1 member with old | new
      · exact waits other old
      · exact ⟨id, placement, label, respond, List.mem_singleton.1 new⟩
  | submit =>
      have issued : ∀ workload ∈ deployment.broker.pending,
          deployment.gathered.Issued workload := waits
      have nothing : deployment.gathered.WaitsIssued := fun _ member => absurd member List.not_mem_nil
      obtain ⟨steps, after⟩ := foldl_consider_steps issued nothing
      rw [perform, submit_eq]
      exact ⟨.head (.gathered deployment) steps, after⟩
  | run limit bound =>
      exact ⟨.head (.started deployment) (advance_steps (Simulation.started_start _)), waits⟩
  | reclaim datacenter workload =>
      refine ⟨.single (.reclaimed deployment datacenter workload), ?_⟩
      change (deployment.reclaim datacenter workload).2.WaitsIssued
      rw [reclaim]
      split
      · exact waits
      · split <;> exact waits

theorem after_append (deployment : Deployment) (early late : List Operation) :
    deployment.after (early ++ late) = (deployment.after early).after late := by
  induction early generalizing deployment with
  | nil => rfl
  | cons operation early induction => exact induction _

/-- A run that came to its end is an operation, and nothing is due after it. -/
theorem runUntil?_ok {deployment next : Deployment} {limit time : Seconds} {bound : Nat}
    (ran : deployment.runUntil? limit bound = some (.ok time, next)) :
    next = deployment.after [.run limit bound] ∧ next.simulation.started = true ∧
      next.simulation.step? next.broker.registry limit = none := by
  obtain ⟨⟨result, simulation⟩, continued, same⟩ := Option.map_eq_some_iff.1 ran
  cases same
  rcases Simulation.advance_of_continue? continued with ⟨fault, failed, -⟩ | ⟨-, settled, advanced⟩
  · cases failed
  · refine ⟨?_, ?_, settled⟩
    · rw [after, perform, advance, advanced]
      rfl
    · have kept : (deployment.simulation.start.advance deployment.broker.registry limit
          bound).2.started = true := by
        rw [Simulation.started_advance, Simulation.started_start]
      rw [advanced] at kept
      exact kept

/-- Any operations are a sequence of steps with the same faults. -/
theorem after_steps {deployment : Deployment} (waits : deployment.WaitsIssued)
    (operations : List Operation) :
    Steps deployment (deployment.faults operations) (deployment.after operations) := by
  induction operations generalizing deployment with
  | nil => exact .refl deployment
  | cons operation operations induction =>
      obtain ⟨steps, after⟩ := perform_steps waits operation
      exact steps.trans (induction after)

theorem delay_after {deployment : Deployment} (waits : deployment.WaitsIssued)
    (operations : List Operation) : (deployment.after operations).delay = deployment.delay :=
  (after_steps waits operations).keep (fun reached => reached.delay = deployment.delay)
    (fun _ => True) (fun _ _ => trivial) (fun same step _ => step.delay.trans same) rfl

theorem waitsIssued_after {deployment : Deployment} (waits : deployment.WaitsIssued)
    (operations : List Operation) : (deployment.after operations).WaitsIssued := by
  induction operations generalizing deployment with
  | nil => exact waits
  | cons operation operations induction => exact induction (perform_steps waits operation).2

end Deployment

end CoSimulation
