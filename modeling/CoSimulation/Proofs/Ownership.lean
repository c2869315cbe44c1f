import CoSimulation.Proofs.Deployment.Assembly
import CoSimulation.Proofs.Deployment.Reclaiming

/-!
# Every workload is in one place

A submitted workload waits in the queue, runs on its host, has finished there or was
reclaimed from there.  `residences` lists what is where; the workloads in it are those
that were submitted, each with its host, and the completions are those that have ended.
-/

namespace CoSimulation

/-- What a workload does where it is. -/
inductive Standing where
  | waiting
  | running
  | finished
  | reclaimed
deriving DecidableEq

def Standing.ended : Standing → Bool
  | waiting | running => false
  | finished | reclaimed => true

/-- A workload in one place. -/
structure Residence where
  datacenter : DatacenterId
  host : HostId
  standing : Standing
  workload : WorkloadId
deriving DecidableEq

/-- The workload in a submission that is under way to a datacenter. -/
def Event.residences (target : DatacenterId) : Event → List Residence
  | submit host workload => [⟨target, host, .waiting, workload.id⟩]
  | housekeeping | deliver _ => []

def Scheduler.residences (datacenter : DatacenterId) (host : HostId) (scheduler : Scheduler) :
    List Residence :=
  scheduler.active.map (fun workload => ⟨datacenter, host, .running, workload.id⟩) ++
    (scheduler.finished.values.map (fun workload => ⟨datacenter, host, .finished, workload.id⟩) ++
      scheduler.reclaimed.map fun id => ⟨datacenter, host, .reclaimed, id⟩)

def Datacenter.residences (id : DatacenterId) (datacenter : Datacenter) : List Residence :=
  datacenter.hosts.entries.flatMap fun entry => entry.2.scheduler.residences id entry.1

/-- Every workload in a simulation with the place where it is. -/
def Simulation.residences (simulation : Simulation) : List Residence :=
  simulation.queue.pending.flatMap (fun entry => entry.event.residences entry.target) ++
    simulation.datacenters.entries.flatMap fun entry => entry.2.residences entry.1

/-! ## Residences and accounts -/

namespace Residence

def bound (residence : Residence) : WorkloadId × HostId := (residence.workload, residence.host)

def completion (residence : Residence) : DatacenterId × WorkloadId :=
  (residence.datacenter, residence.workload)

def ended (residence : Residence) : Bool := residence.standing.ended

end Residence

theorem Scheduler.WellFormed.residences_bound {scheduler : Scheduler}
    (formed : scheduler.WellFormed) (datacenter : DatacenterId) (host : HostId) :
    (scheduler.residences datacenter host).map Residence.bound =
      scheduler.identities.map fun workload => (workload, host) := by
  rw [identities, settled, ← formed.finished_ids]
  simp [residences, Residence.bound, Function.comp_def]

theorem Scheduler.WellFormed.residences_ended {scheduler : Scheduler}
    (formed : scheduler.WellFormed) (datacenter : DatacenterId) (host : HostId) :
    ((scheduler.residences datacenter host).filter Residence.ended).map Residence.completion =
      scheduler.settled.map fun workload => (datacenter, workload) := by
  rw [settled, ← formed.finished_ids]
  simp [residences, Residence.ended, Residence.completion, Standing.ended,
    List.filter_append, List.filter_map, Function.comp_def]

namespace Simulation

/-- The workloads that have ended, with their datacenters. -/
def settled (simulation : Simulation) : Multiset (DatacenterId × WorkloadId) :=
  simulation.datacenters.sum fun id datacenter =>
    datacenter.settled.map fun workload => (id, workload)

end Simulation

namespace Deployment.Consistent

variable {deployment : Deployment} (consistent : deployment.Consistent)
include consistent

/-- The workloads that are somewhere are those that were submitted. -/
theorem residences_perm :
    (deployment.simulation.residences.map Residence.bound).Perm deployment.broker.submitted := by
  rw [← Multiset.coe_eq_coe, ← consistent.roster, Simulation.roster, Simulation.residences,
    List.map_append, ← Multiset.coe_add]
  congr 1
  · rw [EventQueue.sum]
    induction deployment.simulation.queue.pending with
    | nil => rfl
    | cons entry rest induction =>
        rw [List.flatMap_cons, List.map_append, ← Multiset.coe_add, induction, List.map_cons,
          List.sum_cons]
        cases entry.event <;> rfl
  · rw [List.map_flatMap, Table.coe_flatMap_entries]
    apply Table.sum_congr
    intro id datacenter found
    rw [Datacenter.residences, List.map_flatMap, Table.coe_flatMap_entries, Datacenter.roster,
      Datacenter.total]
    apply Table.sum_congr
    intro host place present
    have formed := ((consistent.lawful id datacenter found).hosts host place present).formed
    rw [formed.residences_bound]

theorem residences_ended :
    (((deployment.simulation.residences.filter Residence.ended).map Residence.completion :
      List (DatacenterId × WorkloadId)) : Multiset (DatacenterId × WorkloadId)) =
      deployment.simulation.settled := by
  have waiting : (deployment.simulation.queue.pending.flatMap fun entry =>
      entry.event.residences entry.target).filter Residence.ended = [] := by
    rw [List.filter_eq_nil_iff]
    intro residence member
    obtain ⟨entry, -, inside⟩ := List.mem_flatMap.1 member
    cases carried : entry.event with
    | submit host workload =>
        rw [carried] at inside
        rw [List.mem_singleton.1 inside]
        simp [Residence.ended, Standing.ended]
    | housekeeping | deliver message =>
        rw [carried] at inside
        cases inside
  rw [Simulation.residences, List.filter_append, waiting, List.nil_append, List.filter_flatMap,
    List.map_flatMap, Table.coe_flatMap_entries, Simulation.settled]
  apply Table.sum_congr
  intro id datacenter found
  rw [Datacenter.residences, List.filter_flatMap, List.map_flatMap, Table.coe_flatMap_entries,
    Datacenter.settled, Datacenter.total, Table.map_sum]
  apply Table.sum_congr
  intro host place present
  have formed := ((consistent.lawful id datacenter found).hosts host place present).formed
  rw [formed.residences_ended]
  rfl

/-- A workload is at the datacenter that owns its host. -/
theorem residence_owner {residence : Residence}
    (member : residence ∈ deployment.simulation.residences) :
    deployment.broker.registry.datacenterOf? residence.host = some residence.datacenter := by
  apply consistent.wired _ _
  rcases List.mem_append.1 member with waiting | present
  · obtain ⟨entry, pending, inside⟩ := List.mem_flatMap.1 waiting
    cases carried : entry.event with
    | submit host workload =>
        rw [carried] at inside
        rw [List.mem_singleton.1 inside]
        exact (consistent.submissions entry pending host workload carried).1
    | housekeeping | deliver message =>
        rw [carried] at inside
        cases inside
  · obtain ⟨⟨id, datacenter⟩, found, inside⟩ := List.mem_flatMap.1 present
    obtain ⟨⟨place, host⟩, here, inside⟩ := List.mem_flatMap.1 inside
    have placed : residence.datacenter = id ∧ residence.host = place := by
      simp only [Scheduler.residences, List.mem_append, List.mem_map] at inside
      rcases inside with ⟨_, -, rfl⟩ | ⟨_, -, rfl⟩ | ⟨_, -, rfl⟩ <;> exact ⟨rfl, rfl⟩
    rw [placed.1, placed.2, Simulation.owns_eq_true]
    refine ⟨datacenter, Table.mem_entries.1 found, ?_⟩
    rw [Datacenter.host?, Table.mem_entries.1 here]
    rfl

end Deployment.Consistent

/-! ## Completions -/

namespace Deployment

/-- The completions are the workloads that have ended. -/
structure Reported (deployment : Deployment) : Prop where
  completed : (deployment.simulation.completed : Multiset (DatacenterId × WorkloadId)) =
    deployment.simulation.settled
  counted : deployment.simulation.counters.completions =
    deployment.simulation.completed.length

theorem Reported.congr {before after : Deployment} (reported : before.Reported)
    (datacenters : after.simulation.datacenters = before.simulation.datacenters)
    (completed : after.simulation.completed = before.simulation.completed)
    (completions : after.simulation.counters.completions =
      before.simulation.counters.completions) : after.Reported where
  completed := by
    rw [completed, Simulation.settled, datacenters]
    exact reported.completed
  counted := by rw [completions, completed, reported.counted]

namespace Consistent

variable {deployment : Deployment} (consistent : deployment.Consistent)
include consistent

theorem reported_ran {limit : Seconds} {fault : Option Fault} {next : Simulation}
    (stepped : deployment.simulation.step? deployment.broker.registry limit =
      some (fault, next)) (reported : deployment.Reported) :
    Reported { deployment with simulation := next } := by
  obtain ⟨entry, rest, datacenter, reaction, -, -, found, handled, absorbed⟩ :=
    consistent.step? stepped
  have settled := handled.settled (consistent.lawful _ _ found)
    (consistent.collected _ _ found)
  let ended : DatacenterId → Datacenter → Multiset (DatacenterId × WorkloadId) :=
    fun id datacenter => datacenter.settled.map fun workload => (id, workload)
  have share : ended entry.target { reaction.state with completed := [] } =
      ((reaction.state.completed.map fun workload => (entry.target, workload) :
        List (DatacenterId × WorkloadId)) : Multiset (DatacenterId × WorkloadId)) +
          ended entry.target datacenter := by
    change (reaction.state.settled.map fun workload => (entry.target, workload)) = _
    rw [settled, Multiset.map_add, Multiset.map_coe]
  have exchanged : next.settled + ended entry.target datacenter =
      deployment.simulation.settled +
        ended entry.target { reaction.state with completed := [] } :=
    absorbed.sum_datacenters found
  rw [share, ← add_assoc] at exchanged
  refine ⟨?_, ?_⟩
  · rw [add_right_cancel exchanged, ← reported.completed, Multiset.coe_add]
    exact congrArg _ absorbed.completed
  · simp only [absorbed.completions, absorbed.completed, reported.counted, List.length_append,
      List.length_map]

theorem reported_reclaim (id : DatacenterId) (workload : WorkloadId)
    (reported : deployment.Reported) : (deployment.reclaim id workload).2.Reported := by
  rcases consistent.reclaim_cases id workload with
    same | ⟨datacenter, owner, host, returned, scheduler, found, present, handed, same⟩
  · rw [same]
    exact reported
  · have settled := Datacenter.settled_reschedule present handed.settled
    let ended : DatacenterId → Datacenter → Multiset (DatacenterId × WorkloadId) :=
      fun id datacenter => datacenter.settled.map fun workload => (id, workload)
    have exchanged : (deployment.simulation.datacenters.insert id
          (datacenter.reschedule owner host scheduler)).sum ended + ended id datacenter =
        deployment.simulation.settled +
          ended id (datacenter.reschedule owner host scheduler) :=
      Table.sum_insert_of_present found
    have share : ended id (datacenter.reschedule owner host scheduler) =
        ended id datacenter := by
      simp only [ended, settled]
    rw [share] at exchanged
    rw [same]
    exact ⟨reported.completed.trans (add_right_cancel exchanged).symm, reported.counted⟩

theorem reported_step {fault : Option Fault} {next : Deployment}
    (step : Step deployment fault next) (reported : deployment.Reported) :
    next.Reported := by
  cases step with
  | queued | gathered | considered => exact reported.congr rfl rfl rfl
  | started =>
      rw [Simulation.start]
      split
      · exact reported
      · exact reported.congr rfl rfl rfl
  | ran _ stepped => exact consistent.reported_ran stepped reported
  | reclaimed id workload => exact consistent.reported_reclaim id workload reported

end Consistent

theorem Assembled.reported_after {configuration : Configuration} {deployment : Deployment}
    (assembled : Assembled configuration deployment) (operations : List Operation) :
    (deployment.after operations).Reported := by
  have initially : deployment.Reported := by
    have nothing : deployment.simulation.settled = 0 := Table.sum_eq_zero fun _ _ found => by
      have none : Datacenter.settled _ = 0 := assembled.total_eq_zero (fun _ _ => rfl) found
      rw [none, Multiset.map_zero]
    refine ⟨?_, ?_⟩
    · rw [nothing, assembled.simulation]
      rfl
    · rw [assembled.simulation]
      rfl
  exact assembled.after_induction Reported (fun _ => True) initially
    (fun consistent step _ => consistent.reported_step step) operations (fun _ _ => trivial)

/-! ## One place -/

/-- Items with different values are found by them. -/
theorem filter_eq_singleton {α β : Type} [DecidableEq β] {value : α → β} {items : List α}
    {item : α} (distinct : (items.map value).Nodup) (member : item ∈ items) :
    (items.filter fun other => value other = value item) = [item] := by
  induction items with
  | nil => cases member
  | cons first rest induction =>
      obtain ⟨new, tail⟩ := List.nodup_cons.1 distinct
      rcases List.mem_cons.1 member with same | later
      · subst same
        have others : (rest.filter fun other => value other = value item) = [] := by
          rw [List.filter_eq_nil_iff]
          intro other listed
          have different : value other ≠ value item :=
            fun equal => new (equal ▸ List.mem_map_of_mem listed)
          simpa using different
        rw [List.filter_cons_of_pos (by simp), others]
      · have different : value first ≠ value item :=
          fun equal => new (equal ▸ List.mem_map_of_mem later)
        rw [List.filter_cons_of_neg (by simpa using different)]
        exact induction tail later

namespace Consistent

variable {deployment : Deployment} (consistent : deployment.Consistent)
include consistent

theorem residences_distinct :
    (deployment.simulation.residences.map Residence.workload).Nodup := by
  have ids := consistent.residences_perm.map Prod.fst
  rw [List.map_map] at ids
  exact ids.nodup_iff.2 consistent.distinct

theorem completed_perm (reported : deployment.Reported) :
    deployment.simulation.completed.Perm
      ((deployment.simulation.residences.filter Residence.ended).map Residence.completion) :=
  Multiset.coe_eq_coe.1 (reported.completed.trans consistent.residences_ended.symm)

/-- A workload is completed once if it has ended, and not at all otherwise. -/
theorem count_completed (reported : deployment.Reported) {residence : Residence}
    (member : residence ∈ deployment.simulation.residences) :
    deployment.simulation.completed.count residence.completion =
      if residence.ended then 1 else 0 := by
  have distinct : (deployment.simulation.residences.map Residence.completion).Nodup := by
    have ids := consistent.residences_distinct
    have through : deployment.simulation.residences.map Residence.workload =
        (deployment.simulation.residences.map Residence.completion).map Prod.snd := by
      rw [List.map_map]
      rfl
    rw [through] at ids
    exact ids.of_map
  have single := filter_eq_singleton distinct member
  calc
    deployment.simulation.completed.count residence.completion =
        ((deployment.simulation.residences.filter Residence.ended).map
          Residence.completion).count residence.completion :=
      (consistent.completed_perm reported).count_eq _
    _ = ((deployment.simulation.residences.filter fun other =>
          other.completion = residence.completion).filter Residence.ended).length := by
      rw [List.count, List.countP_map, List.countP_eq_length_filter, List.filter_filter,
        List.filter_filter]
      congr 2
      funext other
      rw [Bool.and_comm, Bool.eq_iff_iff]
      simp only [Function.comp_apply, Bool.and_eq_true, beq_iff_eq, decide_eq_true_eq]
    _ = if residence.ended then 1 else 0 := by
      rw [single]
      cases ended : residence.ended <;> simp [ended]

end Consistent

/-- Every submitted workload is in exactly one place, with its host and the datacenter
that owns it, and among the completions exactly if it has ended; there are no other
completions. -/
theorem one_residence {configuration : Configuration} {deployment : Deployment}
    (built : configuration.build = .ok deployment) (operations : List Operation) :
    let reached := deployment.after operations
    (∀ workload host, (workload, host) ∈ reached.broker.submitted →
      ∃ residence,
        (reached.simulation.residences.filter fun other => other.workload = workload) =
          [residence] ∧
        residence.host = host ∧
        reached.broker.registry.datacenterOf? host = some residence.datacenter ∧
        reached.simulation.completed.count (residence.datacenter, workload) =
          if residence.ended then 1 else 0) ∧
    (∀ datacenter workload, (datacenter, workload) ∈ reached.simulation.completed →
      ∃ host, (workload, host) ∈ reached.broker.submitted ∧
        reached.broker.registry.datacenterOf? host = some datacenter) ∧
    reached.simulation.counters.completions = reached.simulation.completed.length := by
  have assembled := assembled_of_build built
  intro reached
  have consistent : reached.Consistent := assembled.consistent_after operations
  have reported : reached.Reported := assembled.reported_after operations
  refine ⟨fun workload host submitted => ?_, fun datacenter workload completed => ?_,
    reported.counted⟩
  · obtain ⟨residence, member, bound⟩ :=
      List.mem_map.1 (consistent.residences_perm.mem_iff.2 submitted)
    cases bound
    refine ⟨residence, filter_eq_singleton consistent.residences_distinct member, rfl,
      consistent.residence_owner member, ?_⟩
    exact consistent.count_completed reported member
  · obtain ⟨residence, member, completion⟩ :=
      List.mem_map.1 ((consistent.completed_perm reported).mem_iff.1 completed)
    have present := List.mem_of_mem_filter member
    cases completion
    exact ⟨residence.host,
      consistent.residences_perm.mem_iff.1 (List.mem_map.2 ⟨residence, present, rfl⟩),
      consistent.residence_owner present⟩

/-- A run is aborted by a batch for a vertex that lives nowhere and resumed when the vertex
is placed; then the sender is reclaimed and another workload submitted. -/
def resumedOperations : List Operation :=
  [.queue 7 ((Placement.unpinned [1] 2).onHost 1) 0 (Engine.relay [(1, 2)]), .submit,
    .run 3 20, .queue 8 ((Placement.unpinned [2] 3).onHost 2) 0 (Engine.relay []), .submit,
    .run 5 40, .reclaim 1 7, .queue 9 (Placement.unpinned [3] 3) 0 (Engine.relay []),
    .submit]

theorem one_residence_resumed :
    let reached := Configuration.paired.assemble.after resumedOperations
    Configuration.paired.build = .ok Configuration.paired.assemble ∧
      Configuration.paired.assemble.faults resumedOperations = [.unresolvedDestination 2] ∧
      reached.broker.submitted = [(7, 1), (8, 2), (9, 1)] ∧
      reached.simulation.completed = [(1, 7), (2, 8)] ∧
      ∃ residence,
        (reached.simulation.residences.filter fun other => other.workload = 7) =
          [residence] ∧
        residence.host = 1 ∧
        reached.broker.registry.datacenterOf? 1 = some residence.datacenter ∧
        reached.simulation.completed.count (residence.datacenter, 7) =
          if residence.ended then 1 else 0 := by
  have built := Configuration.build_of_valid Configuration.paired_valid
  have ran :
      let reached := Configuration.paired.assemble.after resumedOperations
      Configuration.paired.assemble.faults resumedOperations = [.unresolvedDestination 2] ∧
        reached.broker.submitted = [(7, 1), (8, 2), (9, 1)] ∧
        reached.simulation.completed = [(1, 7), (2, 8)] := by
    decide +kernel
  obtain ⟨faults, submitted, completed⟩ := ran
  refine ⟨built, faults, submitted, completed, ?_⟩
  apply (one_residence built resumedOperations).1 7 1
  rw [submitted]
  exact List.mem_cons_self

end Deployment

end CoSimulation
