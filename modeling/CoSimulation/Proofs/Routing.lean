import CoSimulation.Proofs.Deployment.Assembly
import CoSimulation.Proofs.Deployment.Reclaiming

/-!
# Registry and routing never diverge

Whatever is done with a deployment, a run fails for one reason only: an engine sent a
batch to a vertex that was never placed.  The other events can fail only by bringing a
message to a workload that was reclaimed, so as long as nothing is reclaimed the
violations of a simulation are the workloads that its broker rejected.
-/

namespace CoSimulation

/-- How the datacenter of the next event reacts to it. -/
def Simulation.reaction? (simulation : Simulation) (registry : Registry) :
    Option (Reaction Datacenter Unit) :=
  match simulation.queue.pop? with
  | none => none
  | some (entry, _) =>
      (simulation.datacenters.get? entry.target).map fun datacenter =>
        datacenter.handle { registry := registry, now := entry.time } entry.event

namespace Deployment

/-- Every violation is a rejection, unless something was reclaimed. -/
def Tallied (deployment : Deployment) : Prop :=
  deployment.simulation.reclaimed = 0 →
    deployment.simulation.counters.violations = deployment.broker.rejected.length

namespace Consistent

variable {deployment : Deployment} (consistent : deployment.Consistent)
include consistent

theorem advance_fault {limit : Seconds} {bound : Nat} {fault : Fault}
    (failed : (deployment.simulation.advance deployment.broker.registry limit bound).1 =
      some fault) : ∃ vertex, fault = .unresolvedDestination vertex := by
  induction bound generalizing deployment with
  | zero => cases failed
  | succ bound induction =>
      rw [Simulation.advance] at failed
      split at failed
      · cases failed
      · rename_i raised next stepped
        cases failed
        exact consistent.ran_fault stepped
      · rename_i next stepped
        have after : Consistent { deployment with simulation := next } :=
          consistent.ran stepped
        exact induction after failed

theorem runUntil?_fault {limit : Seconds} {bound : Nat} {fault : Fault}
    {next : Deployment} (ran : deployment.runUntil? limit bound = some (.error fault, next)) :
    ∃ vertex, fault = .unresolvedDestination vertex := by
  obtain ⟨⟨result, simulation⟩, continued, same⟩ := Option.map_eq_some_iff.1 ran
  cases same
  rcases Simulation.advance_of_continue? continued with
    ⟨raised, failed, advanced⟩ | ⟨succeeded, -⟩
  · cases failed
    exact consistent.start.advance_fault (congrArg Prod.fst advanced)
  · cases succeeded

/-- Every event finds its datacenter. -/
theorem reaction_exists (waits : deployment.simulation.queue.pending ≠ []) :
    ∃ reaction, deployment.simulation.reaction? deployment.broker.registry =
      some reaction := by
  rw [Simulation.reaction?]
  split
  · rename_i nothing
    exact absurd (EventQueue.pop?_eq_none.1 nothing) waits
  · rename_i entry rest popped
    obtain ⟨datacenter, found⟩ := consistent.targets entry
      ((EventQueue.pop?_eq_some.1 popped).1 ▸ List.mem_cons_self)
    rw [found]
    exact ⟨_, rfl⟩

/-- An event fails for one of two reasons. -/
theorem reaction_fault {reaction : Reaction Datacenter Unit}
    (reacts : deployment.simulation.reaction? deployment.broker.registry = some reaction)
    {fault : Fault} (failed : reaction.result = .error fault) :
    (∃ vertex, fault = .unresolvedDestination vertex) ∨
      ∃ workload ∈ deployment.simulation.reclaimed, fault = .workloadReclaimed workload := by
  rw [Simulation.reaction?] at reacts
  split at reacts
  · cases reacts
  · rename_i entry rest popped
    obtain ⟨datacenter, found, rfl⟩ := Option.map_eq_some_iff.1 reacts
    have first : entry ∈ deployment.simulation.queue.pending :=
      (EventQueue.pop?_eq_some.1 popped).1 ▸ List.mem_cons_self
    have handled := consistent.handled popped found entry.time
    rcases handled.fault (consistent.lawful _ _ found)
      (consistent.ordered.instants entry first) (consistent.ordered.upcoming entry first)
      failed with lost | ⟨workload, reclaimed, same⟩
    · exact .inl lost
    · exact .inr ⟨workload, Table.mem_sum.2 ⟨_, datacenter, found, reclaimed⟩, same⟩

theorem tallied_ran {limit : Seconds} {fault : Option Fault} {next : Simulation}
    (stepped : deployment.simulation.step? deployment.broker.registry limit =
      some (fault, next)) (tallied : deployment.Tallied) :
    Tallied { deployment with simulation := next } := by
  intro nothing
  rw [consistent.reclaimed_ran stepped] at nothing
  have before := tallied nothing
  obtain ⟨entry, rest, datacenter, reaction, popped, -, found, handled, absorbed⟩ :=
    consistent.step? stepped
  rcases absorbed.counted with ⟨-, -, same⟩ | ⟨raised, failed, ⟨-, -, same⟩ | ⟨mild, -, -⟩⟩
  · exact same.trans before
  · exact same.trans before
  · -- a fault that is not fatal would be about a reclaimed workload
    rcases consistent.result_of_nothing nothing popped found handled with ok | ⟨vertex, lost⟩
    · cases ok.symm.trans failed
    · cases lost.symm.trans failed
      cases mild

theorem tallied_step {fault : Option Fault} {next : Deployment}
    (step : Step deployment fault next) (tallied : deployment.Tallied) : next.Tallied := by
  cases step with
  | queued | gathered => exact tallied
  | considered issued considered =>
      intro nothing
      have before : deployment.simulation.counters.violations =
          deployment.broker.rejected.length := tallied nothing
      have more := considered.rejected_le
      simp only [Deployment.considered, before]
      omega
  | started =>
      intro nothing
      have same : deployment.simulation.start.counters = deployment.simulation.counters := by
        rw [Simulation.start]
        split <;> rfl
      rw [same]
      exact tallied (consistent.reclaimed_step (.started deployment) nothing)
  | ran _ stepped => exact consistent.tallied_ran stepped tallied
  | reclaimed id workload =>
      intro nothing
      have same := consistent.reclaim_of_nothing nothing
      rw [same] at nothing ⊢
      exact tallied nothing

end Consistent

theorem Assembled.tallied_after {configuration : Configuration} {deployment : Deployment}
    (assembled : Assembled configuration deployment) (operations : List Operation) :
    (deployment.after operations).Tallied := by
  have initially : deployment.Tallied := fun _ => by
    rw [assembled.simulation, assembled.rejected]
    rfl
  exact assembled.after_induction Tallied (fun _ => True) initially
    (fun consistent step _ => consistent.tallied_step step) operations (fun _ _ => trivial)

/-- A run fails only for a destination that was never placed; every event is handled and
fails for that reason or because its workload was reclaimed; and the violations are the
rejections if nothing was reclaimed.  The operations before may have failed, and may
have been cut off after any event. -/
theorem fault_only_unresolvedDestination {configuration : Configuration}
    {deployment : Deployment} (built : configuration.build = .ok deployment)
    (operations : List Operation) :
    let reached := deployment.after operations
    (∀ limit bound fault next,
      reached.runUntil? limit bound = some (.error fault, next) →
        ∃ vertex, fault = .unresolvedDestination vertex) ∧
    (reached.simulation.start.queue.pending ≠ [] →
      ∃ reaction, reached.simulation.start.reaction? reached.broker.registry =
        some reaction) ∧
    (∀ reaction fault,
      reached.simulation.start.reaction? reached.broker.registry = some reaction →
      reaction.result = .error fault →
        (∃ vertex, fault = .unresolvedDestination vertex) ∨
          ∃ workload ∈ reached.simulation.reclaimed,
            fault = .workloadReclaimed workload) ∧
    (reached.simulation.reclaimed = 0 →
      reached.simulation.counters.violations = reached.broker.rejected.length) := by
  have assembled := assembled_of_build built
  intro reached
  have consistent : reached.Consistent := assembled.consistent_after operations
  have started : Consistent { reached with simulation := reached.simulation.start } :=
    consistent.start
  refine ⟨fun limit bound fault next ran => consistent.runUntil?_fault ran,
    started.reaction_exists, fun reaction fault reacts failed => ?_,
    assembled.tallied_after operations⟩
  have reasons := started.reaction_fault reacts failed
  rw [Simulation.reclaimed_start] at reasons
  exact reasons

/-- A workload sends to a vertex before the one that executes it is submitted, and a
third workload claims a vertex of the first on another host. -/
def hastyOperations : List Operation :=
  [.queue 7 ((Placement.unpinned [1] 8).onHost 1) 0 (Engine.relay [(1, 2)]), .submit,
    .run 3 20, .queue 8 ((Placement.unpinned [2] 8).onHost 2) 0 (Engine.relay []),
    .queue 9 ((Placement.unpinned [1] 8).onHost 2) 0 (Engine.relay []), .submit, .run 6 40]

theorem fault_only_unresolvedDestination_hasty :
    let reached := Configuration.paired.assemble.after hastyOperations
    Configuration.paired.build = .ok Configuration.paired.assemble ∧
      Configuration.paired.assemble.faults hastyOperations = [.unresolvedDestination 2] ∧
      reached.broker.rejected = [(9, .vertexAlreadyPlaced 1 2 1)] ∧
      reached.simulation.counters.violations = reached.broker.rejected.length := by
  have built := Configuration.build_of_valid Configuration.paired_valid
  have ran :
      let reached := Configuration.paired.assemble.after hastyOperations
      Configuration.paired.assemble.faults hastyOperations = [.unresolvedDestination 2] ∧
        reached.broker.rejected = [(9, .vertexAlreadyPlaced 1 2 1)] ∧
        reached.simulation.reclaimed = 0 := by
    decide +kernel
  obtain ⟨faults, rejected, unreclaimed⟩ := ran
  refine ⟨built, faults, rejected, ?_⟩
  exact (fault_only_unresolvedDestination built hastyOperations).2.2.2 unreclaimed

end Deployment

end CoSimulation
