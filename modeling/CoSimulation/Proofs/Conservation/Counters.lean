import CoSimulation.Proofs.Conservation.Hosts
import CoSimulation.Proofs.Datacenter.Reactions
import CoSimulation.Proofs.Deployment.Assembly
import CoSimulation.Proofs.Deployment.Reclaiming
import CoSimulation.Proofs.Scheduler.Ticks
import CoSimulation.Proofs.Workload.Requests

/-!
# Counters of hosts and workloads agree

A host counts what it grants before it calls a workload, and a workload counts what it was
offered once its engine has run.  The two agree because a host calls none that has finished
and its clock never runs backwards, so every call reaches the engine, also if a message of
the workload goes astray afterwards.
-/

namespace CoSimulation

theorem sumOf_eq_sum (counts : List Nat) : sumOf counts = counts.sum := by
  induction counts with
  | nil => rfl
  | cons first rest induction => rw [sumOf, induction, List.sum_cons]

/-! ## A turn -/

namespace Workload

/-- Forwarding counts what is sent and changes nothing else. -/
theorem forward_counts (workload : Workload) (network : Network) (records : List Record) :
    ∃ sent, (workload.forward network records).state =
      { workload with counters := { workload.counters with sent := sent } } := by
  rw [forward]
  split
  · exact ⟨workload.counters.sent, rfl⟩
  · split
    · exact ⟨workload.counters.sent, rfl⟩
    · exact ⟨_, rfl⟩

theorem history_run (workload : Workload) (slice : Slice) :
    (workload.run slice).2.history =
      if workload.keepsHistory then workload.history ++ (workload.run slice).1
      else workload.history := by
  have kept := congrArg Terms.keepsHistory
    (workload.terms_elapse slice.current slice.previous)
  have same : (workload.elapse slice.current slice.previous).history = workload.history := by
    rw [elapse]
    split <;> rfl
  change (if (workload.elapse slice.current slice.previous).keepsHistory then
      (workload.elapse slice.current slice.previous).history ++ (workload.run slice).1
    else (workload.elapse slice.current slice.previous).history) = _
  rw [same]
  change (workload.elapse slice.current slice.previous).keepsHistory = workload.keepsHistory
    at kept
  rw [kept]

/-- A turn of a running workload counts on the workload what it counts on the host. -/
theorem turn_counts {workload : Workload} (network : Network) {time previous : Seconds}
    (capacity : Binary64) (running : workload.finished = false)
    (monotone : ¬ time < previous) :
    let turn := workload.turn network time previous capacity
    turn.workload.counters.offered = workload.counters.offered + turn.granted ∧
      turn.workload.counters.ticks = workload.counters.ticks + 1 ∧
      (workload.keepsHistory = true →
        turn.workload.history.length = workload.history.length + turn.records) := by
  intro turn
  let slice := workload.sliceOf time previous capacity
  obtain ⟨sent, forwarded⟩ := (workload.run slice).2.forward_counts network (workload.run slice).1
  have taken : turn.workload =
      { (workload.run slice).2 with
        counters := { (workload.run slice).2.counters with sent := sent } } := by
    simp only [turn]
    rw [turn_of_running running monotone]
    exact forwarded
  have granted : turn.granted = slice.instructions := by
    simp only [turn]
    rw [turn_of_running running monotone]
    rfl
  have records : turn.records = (workload.run slice).1.length := by
    simp only [turn]
    rw [turn_of_running running monotone]
  rw [taken, granted, records]
  refine ⟨?_, ?_, fun keeps => ?_⟩
  · exact congrArg WorkloadCounters.offered (workload.counted_run slice)
  · exact congrArg WorkloadCounters.ticks (workload.counted_run slice)
  · change (workload.run slice).2.history.length = _
    rw [history_run, if_pos keeps, List.length_append]

end Workload

/-! ## A tick -/

namespace Scheduler

section Tick

variable {scheduler : Scheduler} {network : Network} {time : Seconds} {mips : List Binary64}
  (formed : scheduler.WellFormed)
include formed

/-- A quantity that every turn raises by its own gain is raised by the gains of all turns. -/
theorem WellFormed.tally_tick {quantity : Workload → Nat} (gain : Turn → Nat)
    (gains : ∀ workload ∈ scheduler.active,
      let turn := workload.turn network time scheduler.previous (scheduler.capacity mips)
      quantity turn.workload = quantity workload + gain turn) :
    (scheduler.tick network time mips).state.tally quantity =
      scheduler.tally quantity + ((scheduler.turns network time mips).map gain).sum := by
  have listed : (scheduler.tick network time mips).state.workloads.Perm
      (scheduler.turned network time mips ++ scheduler.finished.values) :=
    formed.filed.tick_workloads
  have turned : ((scheduler.turned network time mips).map quantity).sum =
      (scheduler.active.map quantity).sum +
        ((scheduler.turns network time mips).map gain).sum := by
    rw [turned_eq, turns, List.map_map, List.map_map]
    exact sum_map_add_of_eq gains
  rw [tally, (listed.map quantity).sum_eq, List.map_append, List.sum_append, turned, tally,
    workloads, List.map_append, List.sum_append]
  omega

/-- What ends in a tick was not signalled before, so all of it is counted. -/
theorem WellFormed.tick_completions :
    (scheduler.tick network time mips).state.counters.completions =
      scheduler.counters.completions + (scheduler.ending network time mips).length := by
  obtain ⟨completed, counters⟩ := tick_counters network time mips formed.filed
  have all := completed.symm.trans formed.tick_completed
  rw [counters, List.append_cancel_left all, List.length_map]

theorem WellFormed.tick_size_finished :
    (scheduler.tick network time mips).state.finished.size =
      scheduler.finished.size + (scheduler.ending network time mips).length := by
  have entries : (scheduler.tick network time mips).state.finished.entries.Perm _ :=
    formed.filed.tick_finished
  rw [Table.size, entries.length_eq, List.length_append, List.length_map, Nat.add_comm]
  rfl

end Tick

theorem counters_deliver {scheduler next : Scheduler} {id : WorkloadId} {message : Message}
    (taken : scheduler.deliver id message = .ok next) : next.counters = scheduler.counters := by
  rw [deliver, modify] at taken
  split at taken
  · cases taken
  · split at taken
    · cases taken
      rfl
    · split at taken
      · cases taken
        rfl
      · cases taken

end Scheduler

/-! ## On a host -/

namespace Host

/-- The host has counted what its workloads, running and finished, have counted. -/
structure Reconciled (keepsHistory : Bool) (host : Host) : Prop where
  granted : host.scheduler.counters.granted =
    (host.scheduler.workloads.map fun workload => workload.counters.offered).sum
  ticks : host.scheduler.counters.workloadTicks =
    (host.scheduler.workloads.map fun workload => workload.counters.ticks).sum
  completions : host.scheduler.counters.completions = host.scheduler.finished.size
  kept : ∀ workload ∈ host.scheduler.workloads, workload.keepsHistory = keepsHistory
  records : keepsHistory = true → host.scheduler.counters.records =
    (host.scheduler.workloads.map fun workload => workload.history.length).sum

theorem reconciled_create (keepsHistory : Bool) (id : HostId) (mips : List Binary64)
    (gap : Seconds) : (create id mips gap).Reconciled keepsHistory :=
  ⟨rfl, rfl, rfl, fun _ member => absurd member List.not_mem_nil, fun _ => rfl⟩

namespace Reconciled

variable {host : Host} {keepsHistory : Bool} (reconciled : host.Reconciled keepsHistory)
include reconciled

theorem ticked {network : Network} {now : Seconds} (lawful : host.Lawful now)
    (clock : now.IsInstant) : (host.ticked network now).Reconciled keepsHistory := by
  have formed := lawful.formed
  have counts {workload : Workload} (active : workload ∈ host.scheduler.active) :=
    Workload.turn_counts network (host.scheduler.capacity host.mips)
      (formed.running workload active) (lawful.monotone clock)
  obtain ⟨-, counters⟩ := Scheduler.tick_counters network now host.mips formed.filed
  constructor
  · change (host.scheduler.tick network now host.mips).state.counters.granted =
      (host.scheduler.tick network now host.mips).state.tally
        fun workload => workload.counters.offered
    rw [formed.tally_tick _ fun workload active => (counts active).1, counters]
    change host.scheduler.counters.granted + sumOf _ = _
    rw [sumOf_eq_sum, reconciled.granted]
    rfl
  · change (host.scheduler.tick network now host.mips).state.counters.workloadTicks =
      (host.scheduler.tick network now host.mips).state.tally
        fun workload => workload.counters.ticks
    rw [formed.tally_tick (fun _ => 1) fun workload active => (counts active).2.1, counters]
    change host.scheduler.counters.workloadTicks + _ = _
    rw [reconciled.ticks, List.map_const', List.sum_replicate_nat, Nat.mul_one]
    rfl
  · change (host.scheduler.tick network now host.mips).state.counters.completions =
      (host.scheduler.tick network now host.mips).state.finished.size
    rw [formed.tick_completions, formed.tick_size_finished, reconciled.completions]
  · intro workload member
    rcases List.mem_append.1 ((ticked_workloads formed now).mem_iff.1 member) with
      turned | finished
    · rw [Scheduler.turned_eq] at turned
      obtain ⟨running, active, rfl⟩ := List.mem_map.1 turned
      exact (congrArg Workload.Terms.keepsHistory (running.terms_turn _ _ _ _)).trans
        (reconciled.kept running (List.mem_append_left _ active))
    · exact reconciled.kept workload (List.mem_append_right _ finished)
  · intro keeps
    change (host.scheduler.tick network now host.mips).state.counters.records =
      (host.scheduler.tick network now host.mips).state.tally
        fun workload => workload.history.length
    have kept {workload : Workload} (active : workload ∈ host.scheduler.active) :=
      (reconciled.kept workload (List.mem_append_left _ active)).trans keeps
    rw [formed.tally_tick _ fun workload active => (counts active).2.2 (kept active), counters]
    change host.scheduler.counters.records + sumOf _ = _
    rw [sumOf_eq_sum, reconciled.records keeps]
    rfl

/-- A workload that is taken in has counted nothing yet. -/
theorem submit {workload : Workload} {estimate : Seconds} {next : Scheduler}
    (taken : host.scheduler.submit workload = .ok (estimate, next))
    (fresh : workload.counters = {}) (blank : workload.history = [])
    (keeps : workload.keepsHistory = keepsHistory) :
    ({ host with scheduler := next } : Host).Reconciled keepsHistory := by
  obtain ⟨-, -, rfl⟩ := Scheduler.submit_eq_ok taken
  have listed : (host.scheduler.active ++ [workload] ++ host.scheduler.finished.values).Perm
      (workload :: host.scheduler.workloads) := by
    rw [List.append_assoc]
    exact List.perm_middle
  have sum (quantity : Workload → Nat) (nothing : quantity workload = 0) :
      ((host.scheduler.active ++ [workload] ++ host.scheduler.finished.values).map
        quantity).sum = (host.scheduler.workloads.map quantity).sum := by
    rw [(listed.map quantity).sum_eq, List.map_cons, List.sum_cons, nothing, Nat.zero_add]
  constructor
  · exact reconciled.granted.trans (sum _ (by rw [fresh])).symm
  · exact reconciled.ticks.trans (sum _ (by rw [fresh])).symm
  · exact reconciled.completions
  · intro other member
    rcases List.mem_cons.1 (listed.mem_iff.1 member) with same | old
    · rw [same, keeps]
    · exact reconciled.kept other old
  · exact fun keeping => (reconciled.records keeping).trans (sum _ (by rw [blank]; rfl)).symm

/-- A message is no tick. -/
theorem deliver {id : WorkloadId} {message : Message} {next : Scheduler}
    (formed : host.scheduler.WellFormed)
    (taken : host.scheduler.deliver id message = .ok next) :
    ({ host with scheduler := next } : Host).Reconciled keepsHistory := by
  have counters := Scheduler.counters_deliver taken
  have delivered := formed.delivered taken
  obtain ⟨before, workload, after, -, listed, changed⟩ := delivered.changed
  have received : (workload.receive message).counters.offered = workload.counters.offered ∧
      (workload.receive message).counters.ticks = workload.counters.ticks ∧
      (workload.receive message).history = workload.history := by
    rw [Workload.receive]
    split <;> exact ⟨rfl, rfl, rfl⟩
  obtain ⟨offered, ticks, history⟩ := received
  have sum (quantity : Workload → Nat)
      (same : quantity (workload.receive message) = quantity workload) :
      (host.scheduler.workloads.map quantity).sum = (next.workloads.map quantity).sum := by
    rw [listed, changed, List.map_append, List.map_append, List.map_cons, List.map_cons, same]
  constructor
  · change next.counters.granted = _
    rw [counters]
    exact reconciled.granted.trans (sum _ offered)
  · change next.counters.workloadTicks = _
    rw [counters]
    exact reconciled.ticks.trans (sum _ ticks)
  · change next.counters.completions = next.finished.size
    have size := congrArg List.length delivered.keys
    rw [Table.keys, List.length_map, Table.keys, List.length_map] at size
    rw [counters, Table.size, size]
    exact reconciled.completions
  · intro other member
    rcases delivered.of_mem_workloads member with old | ⟨found, old, rfl⟩
    · exact reconciled.kept other old
    · exact (congrArg Workload.Terms.keepsHistory (found.terms_receive message)).trans
        (reconciled.kept found old)
  · intro keeping
    change next.counters.records = _
    rw [counters]
    exact (reconciled.records keeping).trans (sum _ (congrArg List.length history))

end Reconciled

end Host

/-! ## In a deployment -/

namespace Deployment

/-- All hosts have counted what their workloads have counted. -/
def Reconciled (deployment : Deployment) : Prop :=
  ∀ id datacenter, deployment.simulation.datacenters.get? id = some datacenter →
    ∀ place host, datacenter.host? place = some host →
      host.Reconciled deployment.settings.keepsHistory

theorem Step.settings {before after : Deployment} {fault : Option Fault}
    (step : Step before fault after) : after.settings = before.settings := by
  cases step with
  | queued | gathered | considered | started | ran => rfl
  | reclaimed datacenter workload =>
      rw [reclaim]
      split
      · rfl
      · split <;> rfl

theorem Consistent.reconciled_ran {deployment : Deployment}
    (consistent : deployment.Consistent) {limit : Seconds} {fault : Option Fault}
    {next : Simulation}
    (stepped : deployment.simulation.step? deployment.broker.registry limit =
      some (fault, next)) (reconciled : deployment.Reconciled) :
    Reconciled { deployment with simulation := next } := by
  obtain ⟨entry, rest, datacenter, popped, -, found, absorbed⟩ :=
    Simulation.step?_eq_some consistent.targets stepped
  have first : entry ∈ deployment.simulation.queue.pending :=
    (EventQueue.pop?_eq_some.1 popped).1 ▸ List.mem_cons_self
  have clock := consistent.ordered.instants entry first
  let network : Network := { registry := deployment.broker.registry, now := entry.time }
  have hosts := (datacenter.reacts network entry.event).forall_host
    (fun host => host.Lawful entry.time ∧
      host.Reconciled deployment.settings.keepsHistory)
    (fun host good => ⟨good.1.ticked clock, good.2.ticked good.1 clock⟩)
    (fun place workload brings host estimate next good taken => by
      obtain ⟨-, issued⟩ := consistent.submissions entry first place workload brings
      refine ⟨good.1.submit issued.running taken, ?_⟩
      obtain ⟨id, placement, label, respond, rfl⟩ := issued
      exact good.2.submit taken rfl rfl rfl)
    (fun message carried host workload next good taken =>
      ⟨good.1.deliver (good.1.formed.delivered taken), good.2.deliver good.1.formed taken⟩)
    (fun place host present =>
      ⟨((consistent.lawful _ _ found).hosts place host present).later
        (consistent.ordered.upcoming entry first), reconciled _ _ found place host present⟩)
  intro id other present place host here
  rcases absorbed.get?_datacenter present with ⟨-, rfl⟩ | ⟨-, before⟩
  · exact (hosts place host here).2
  · exact reconciled id other before place host here

theorem Consistent.reconciled_step {deployment next : Deployment} {fault : Option Fault}
    (consistent : deployment.Consistent) (step : Step deployment fault next)
    (nothing : next.simulation.reclaimed = 0) (reconciled : deployment.Reconciled) :
    next.Reconciled := by
  cases step with
  | queued | gathered | considered => exact reconciled
  | started =>
      intro id datacenter found
      have same : deployment.simulation.start.datacenters =
          deployment.simulation.datacenters := by
        rw [Simulation.start]
        split <;> rfl
      rw [same] at found
      exact reconciled id datacenter found
  | ran _ stepped => exact consistent.reconciled_ran stepped reconciled
  | reclaimed id workload =>
      rw [consistent.reclaim_of_nothing nothing]
      exact reconciled

theorem Assembled.reconciled_after {configuration : Configuration} {deployment : Deployment}
    (assembled : Assembled configuration deployment) (operations : List Operation)
    (nothing : (deployment.after operations).simulation.reclaimed = 0) :
    (deployment.after operations).settings = deployment.settings ∧
      (deployment.after operations).Reconciled := by
  have initially : deployment.Reconciled := by
    intro id datacenter found place host present
    obtain ⟨-, mips, rfl⟩ := assembled.of_host? found present
    exact Host.reconciled_create _ _ _ _
  have both := assembled.after_induction
    (fun reached => reached.settings = deployment.settings ∧
      (reached.simulation.reclaimed = 0 → reached.Reconciled))
    (fun _ => True) ⟨rfl, fun _ => initially⟩
    (fun consistent step _ holds =>
      ⟨step.settings.trans holds.1, fun nothing => consistent.reconciled_step step nothing
        (holds.2 (consistent.reclaimed_step step nothing))⟩)
    operations (fun _ _ => trivial)
  exact ⟨both.1, both.2 nothing⟩

/-- As long as nothing is reclaimed, every host of a deployment has counted the instructions,
ticks, completions and, if histories are kept, records of its workloads; and none of those
that it still runs has finished. -/
theorem counters_reconciled {configuration : Configuration} {deployment : Deployment}
    (built : configuration.build = .ok deployment) (operations : List Operation)
    (unreclaimed : (deployment.after operations).simulation.reclaimed = 0) :
    ∀ id datacenter,
      (deployment.after operations).simulation.datacenters.get? id = some datacenter →
        ∀ place host, datacenter.host? place = some host →
          host.Reconciled configuration.workloads.keepsHistory ∧
            ∀ workload ∈ host.scheduler.active, workload.finished = false := by
  intro id datacenter found place host present
  have assembled := assembled_of_build built
  obtain ⟨settings, reconciled⟩ := assembled.reconciled_after operations unreclaimed
  have kept : deployment.settings = configuration.workloads := by
    obtain ⟨_, -, rest⟩ := Except.bind_eq_ok_iff.1 built
    cases rest
    rfl
  refine ⟨?_, ?_⟩
  · rw [← kept, ← settings]
    exact reconciled id datacenter found place host present
  · have consistent := assembled.consistent_after operations
    exact ((consistent.lawful id datacenter found).hosts place host present).formed.running

/-- Two workloads share a host.  One of them sends to a vertex that was never placed, which
stops the run three times before it has finished. -/
def strayingOperations : List Operation :=
  [.queue 7 ((Placement.unpinned [1] 2).onHost 1) 0 (Engine.relay [(1, 1), (1, 9)]),
    .queue 8 ((Placement.unpinned [2] 6).onHost 1) 0 (Engine.relay [(2, 1)]), .submit,
    .run 4 30, .run 4 30, .run 4 30, .run 4 30]

/-- The counters of the host that they share, at the end. -/
def strayingCounters : SchedulerCounters :=
  { ticks := 6, workloadTicks := 7, granted := 4000000, records := 10, completions := 1
    faults := 3 }

/-- `Configuration.paired`, with histories kept. -/
def pairedKeeping : Configuration :=
  { Configuration.paired with workloads := { keepsHistory := true } }

/-- One workload has finished and one is running. -/
theorem counters_reconciled_straying :
    let reached := pairedKeeping.assemble.after strayingOperations
    pairedKeeping.build = .ok pairedKeeping.assemble ∧
      pairedKeeping.assemble.faults strayingOperations =
        List.replicate 3 (.unresolvedDestination 9) ∧
      reached.simulation.reclaimed = 0 ∧
      ∃ datacenter host, reached.simulation.datacenters.get? 1 = some datacenter ∧
        datacenter.host? 1 = some host ∧ host.Reconciled true ∧
        (∀ workload ∈ host.scheduler.active, workload.finished = false) ∧
        host.scheduler.counters = strayingCounters := by
  have valid : pairedKeeping.validate = .ok () := by decide +kernel
  have built := Configuration.build_of_valid valid
  have faults : pairedKeeping.assemble.faults strayingOperations =
      List.replicate 3 (.unresolvedDestination 9) := by decide +kernel
  have unreclaimed :
      (pairedKeeping.assemble.after strayingOperations).simulation.reclaimed = 0 := by
    decide +kernel
  have counted :
      ((pairedKeeping.assemble.after strayingOperations).simulation.datacenters.get? 1).bind
        (fun datacenter => (datacenter.host? 1).map fun host => host.scheduler.counters) =
      some strayingCounters := by
    decide +kernel
  obtain ⟨datacenter, found, inside⟩ := Option.bind_eq_some_iff.1 counted
  obtain ⟨host, present, counters⟩ := Option.map_eq_some_iff.1 inside
  obtain ⟨reconciled, running⟩ :=
    counters_reconciled built strayingOperations unreclaimed 1 datacenter found 1 host present
  exact ⟨built, faults, unreclaimed, datacenter, host, found, present, reconciled, running,
    counters⟩

end Deployment

end CoSimulation
