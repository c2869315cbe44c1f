import CoSimulation.Proofs.Deployment.Consistency

/-!
# What was reclaimed

Only reclaiming adds to the reclaimed workloads, and nothing is ever taken from them.
So if nothing is reclaimed after a step, nothing was before it, and the step was no
reclaiming that succeeded.
-/

namespace CoSimulation

def Simulation.reclaimed (simulation : Simulation) : Multiset WorkloadId :=
  simulation.datacenters.sum fun _ datacenter => datacenter.reclaimed

namespace Simulation

@[simp] theorem reclaimed_start (simulation : Simulation) :
    simulation.start.reclaimed = simulation.reclaimed := by
  rw [start]
  split <;> rfl

/-- An event changes a sum over the datacenters by what it changes in its own. -/
theorem Absorbed.sum_datacenters {M : Type} [AddCommMonoid M]
    {quantity : DatacenterId → Datacenter → M} {before after : Simulation} {entry : Scheduled Event}
    {rest : EventQueue Event} {reaction : Reaction Datacenter Unit} {fault : Option Fault}
    {datacenter : Datacenter} (absorbed : before.Absorbed entry rest reaction fault after)
    (found : before.datacenters.get? entry.target = some datacenter) :
    after.datacenters.sum quantity + quantity entry.target datacenter =
      before.datacenters.sum quantity +
        quantity entry.target { reaction.state with completed := [] } := by
  rw [absorbed.datacenters]
  exact Table.sum_insert_of_present found

end Simulation

namespace Deployment

theorem Consistent.reclaimed_ran {deployment : Deployment}
    (consistent : deployment.Consistent) {limit : Seconds} {fault : Option Fault}
    {next : Simulation}
    (stepped : deployment.simulation.step? deployment.broker.registry limit =
      some (fault, next)) : next.reclaimed = deployment.simulation.reclaimed := by
  obtain ⟨entry, rest, datacenter, reaction, -, -, found, handled, absorbed⟩ :=
    consistent.step? stepped
  have exchanged : next.reclaimed + datacenter.reclaimed =
      deployment.simulation.reclaimed + reaction.state.reclaimed :=
    absorbed.sum_datacenters found
  rw [handled.reclaimed] at exchanged
  exact add_right_cancel exchanged

/-- A deployment does not change in an attempt to reclaim a workload, or the workload is
reclaimed after it. -/
theorem Consistent.reclaimed_reclaim {deployment : Deployment}
    (consistent : deployment.Consistent) (id : DatacenterId) (workload : WorkloadId) :
    (deployment.reclaim id workload).2 = deployment ∨
      (deployment.reclaim id workload).2.simulation.reclaimed =
        deployment.simulation.reclaimed + {workload} := by
  rcases consistent.reclaim_cases id workload with
    same | ⟨datacenter, owner, host, returned, scheduler, found, present, handed, same⟩
  · exact .inl same
  · let handedBack : HostId → Scheduler → Multiset WorkloadId :=
      fun _ scheduler => scheduler.reclaimed
    have share : handedBack owner scheduler =
        handedBack owner host.scheduler + {workload} := by
      simp only [handedBack, handed.reclaimed]
      rw [← Multiset.cons_coe, ← Multiset.singleton_add, add_comm]
    have inside : (datacenter.reschedule owner host scheduler).reclaimed +
        handedBack owner host.scheduler = datacenter.reclaimed + handedBack owner scheduler :=
      Datacenter.total_reschedule present handedBack
    have outside : (deployment.simulation.datacenters.insert id
          (datacenter.reschedule owner host scheduler)).sum
            (fun _ datacenter => datacenter.reclaimed) + datacenter.reclaimed =
        deployment.simulation.reclaimed +
          (datacenter.reschedule owner host scheduler).reclaimed :=
      Table.sum_insert_of_present found
    rw [share, add_left_comm, add_comm] at inside
    rw [add_left_cancel inside, add_left_comm, add_comm] at outside
    rw [same]
    exact .inr (add_left_cancel outside)

/-- As long as nothing is reclaimed, attempts to reclaim change nothing. -/
theorem Consistent.reclaim_of_nothing {deployment : Deployment}
    (consistent : deployment.Consistent) {id : DatacenterId} {workload : WorkloadId}
    (nothing : (deployment.reclaim id workload).2.simulation.reclaimed = 0) :
    (deployment.reclaim id workload).2 = deployment := by
  rcases consistent.reclaimed_reclaim id workload with same | more
  · exact same
  · rw [nothing] at more
    have counted := congrArg Multiset.card more
    simp at counted

theorem Consistent.reclaimed_step {deployment next : Deployment} {fault : Option Fault}
    (consistent : deployment.Consistent) (step : Step deployment fault next)
    (nothing : next.simulation.reclaimed = 0) : deployment.simulation.reclaimed = 0 := by
  cases step with
  | queued | gathered | considered => exact nothing
  | started => exact (Simulation.reclaimed_start deployment.simulation) ▸ nothing
  | ran _ stepped =>
      rw [← consistent.reclaimed_ran stepped]
      exact nothing
  | reclaimed id workload =>
      rw [consistent.reclaim_of_nothing nothing] at nothing
      exact nothing

/-- As long as nothing is reclaimed, the only fault of an event is a destination that was
never placed. -/
theorem Consistent.result_of_nothing {deployment : Deployment}
    (consistent : deployment.Consistent) (nothing : deployment.simulation.reclaimed = 0)
    {entry : Scheduled Event} {rest : EventQueue Event} {datacenter : Datacenter}
    {reaction : Reaction Datacenter Unit}
    (popped : deployment.simulation.queue.pop? = some (entry, rest))
    (found : deployment.simulation.datacenters.get? entry.target = some datacenter)
    (handled : datacenter.Handled
      { registry := deployment.broker.registry, now := entry.time } entry.event reaction) :
    reaction.result = .ok () ∨
      ∃ vertex, reaction.result = .error (.unresolvedDestination vertex) := by
  have first : entry ∈ deployment.simulation.queue.pending :=
    (EventQueue.pop?_eq_some.1 popped).1 ▸ List.mem_cons_self
  cases result : reaction.result with
  | ok value => exact .inl rfl
  | error fault =>
      rcases handled.fault (consistent.lawful _ _ found)
        (consistent.ordered.instants entry first) (consistent.ordered.upcoming entry first)
        result with ⟨vertex, rfl⟩ | ⟨workload, reclaimed, -⟩
      · exact .inr ⟨vertex, rfl⟩
      · have member : workload ∈ deployment.simulation.reclaimed :=
          Table.mem_sum.2 ⟨_, datacenter, found, reclaimed⟩
        rw [nothing] at member
        exact absurd member (Multiset.notMem_zero workload)

/-! ## Who reclaims -/

theorem Consistent.reclaimed_advance {deployment : Deployment}
    (consistent : deployment.Consistent) (limit : Seconds) (bound : Nat) :
    (deployment.simulation.advance deployment.broker.registry limit bound).2.reclaimed =
      deployment.simulation.reclaimed := by
  induction bound generalizing deployment with
  | zero => rfl
  | succ bound induction =>
      rw [Simulation.advance]
      split
      · rfl
      · rename_i fault next stepped
        exact consistent.reclaimed_ran stepped
      · rename_i next stepped
        have later : next.reclaimed = deployment.simulation.reclaimed :=
          consistent.reclaimed_ran stepped
        have after : Consistent { deployment with simulation := next } :=
          consistent.ran stepped
        rw [← later]
        exact induction after

theorem Consistent.mem_reclaimed_perform {deployment : Deployment}
    (consistent : deployment.Consistent) {operation : Operation} {workload : WorkloadId}
    (reclaimed : workload ∈ (deployment.perform operation).2.simulation.reclaimed) :
    workload ∈ deployment.simulation.reclaimed ∨
      ∃ datacenter, operation = .reclaim datacenter workload := by
  cases operation with
  | queue | submit => exact .inl reclaimed
  | run limit bound =>
      have same : (deployment.perform (.run limit bound)).2.simulation.reclaimed =
          deployment.simulation.start.reclaimed :=
        consistent.start.reclaimed_advance limit bound
      rw [same, Simulation.reclaimed_start] at reclaimed
      exact .inl reclaimed
  | reclaim datacenter other =>
      change workload ∈ (deployment.reclaim datacenter other).2.simulation.reclaimed at reclaimed
      rcases consistent.reclaimed_reclaim datacenter other with same | more
      · rw [same] at reclaimed
        exact .inl reclaimed
      · rw [more] at reclaimed
        rcases Multiset.mem_add.1 reclaimed with before | now
        · exact .inl before
        · rw [Multiset.mem_singleton.1 now]
          exact .inr ⟨datacenter, rfl⟩

/-- Whatever is reclaimed was reclaimed before or by one of the operations. -/
theorem Consistent.mem_reclaimed_after {deployment : Deployment}
    (consistent : deployment.Consistent) (waits : deployment.WaitsIssued)
    {operations : List Operation} {workload : WorkloadId}
    (reclaimed : workload ∈ (deployment.after operations).simulation.reclaimed) :
    workload ∈ deployment.simulation.reclaimed ∨
      ∃ datacenter, .reclaim datacenter workload ∈ operations := by
  induction operations generalizing deployment with
  | nil => exact .inl reclaimed
  | cons operation operations induction =>
      obtain ⟨steps, issued⟩ := perform_steps waits operation
      rcases induction (consistent.steps steps) issued reclaimed with before | ⟨id, later⟩
      · rcases consistent.mem_reclaimed_perform before with earlier | ⟨id, rfl⟩
        · exact .inl earlier
        · exact .inr ⟨id, List.mem_cons_self⟩
      · exact .inr ⟨id, List.mem_cons_of_mem _ later⟩

end Deployment

end CoSimulation
