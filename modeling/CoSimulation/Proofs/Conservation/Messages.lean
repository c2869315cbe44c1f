import CoSimulation.Proofs.Conservation.Hosts
import CoSimulation.Proofs.Deployment.Assembly
import CoSimulation.Proofs.Deployment.Reclaiming

/-!
# No message is lost or made up

As long as every destination is placed and nothing is reclaimed, every batch that an
engine has sent is on its way, waits at a workload, was handed to that workload's
engine, or came after its end and was dropped; and nothing else ever reaches an engine.
-/

namespace CoSimulation

def EventQueue.messages (queue : EventQueue Event) : List Message :=
  queue.pending.filterMap fun entry =>
    match entry.event with
    | .deliver message => some message
    | .submit .. | .housekeeping => none

theorem EventQueue.sum_carried (queue : EventQueue Event) :
    queue.sum Event.carried = (queue.messages.map Message.arrival : List Call) := by
  rw [sum, messages]
  induction queue.pending with
  | nil => rfl
  | cons entry rest induction =>
      rw [List.map_cons, List.sum_cons, induction]
      cases carried : entry.event with
      | submit | housekeeping =>
          rw [List.filterMap_cons_none (by rw [carried])]
          exact zero_add _
      | deliver message =>
          rw [List.filterMap_cons_some (by rw [carried])]
          rfl

def Event.workloads : Event → List Workload
  | submit _ workload => [workload]
  | housekeeping | deliver _ => []

namespace Simulation

/-- The messages that datacenters have queued on workloads. -/
def deliveries (simulation : Simulation) : Nat :=
  simulation.datacenters.sum fun _ datacenter => datacenter.counters.deliveries

def tally {M : Type} [AddCommMonoid M] (quantity : Workload → M) (simulation : Simulation) :
    M :=
  simulation.datacenters.sum fun _ datacenter => datacenter.tally quantity

def hosted (simulation : Simulation) : List Workload :=
  simulation.datacenters.entries.flatMap fun entry =>
    entry.2.hosts.entries.flatMap fun entry => entry.2.scheduler.workloads

theorem sum_hosted {M : Type} [AddCommMonoid M] (quantity : Workload → M)
    (simulation : Simulation) :
    (simulation.hosted.map quantity).sum = simulation.tally quantity := by
  rw [hosted, sum_map_flatMap, tally, Table.sum]
  congr 1
  apply List.map_congr_left
  intro entry _
  rw [sum_map_flatMap]
  rfl

/-- Every batch sent is under way, has arrived at a workload, or was lost. -/
def Conserved (delay : Seconds) (simulation : Simulation) : Prop :=
  ∃ lost : Multiset Call,
    simulation.tally (Workload.outgoing delay) =
        simulation.queue.sum Event.carried + simulation.tally Workload.incoming + lost ∧
      simulation.tally (fun workload => workload.counters.dropped) = lost.card ∧
      simulation.deliveries = (simulation.tally Workload.incoming).card + lost.card

/-- What a datacenter conserves, the simulation conserves. -/
theorem Absorbed.conserved {before after : Simulation} {entry : Scheduled Event}
    {rest : EventQueue Event} {reaction : Reaction Datacenter Unit} {fault : Option Fault}
    {datacenter : Datacenter} {delay : Seconds}
    (absorbed : before.Absorbed entry rest reaction fault after)
    (found : before.datacenters.get? entry.target = some datacenter)
    (conserves : datacenter.Conserves delay entry.event reaction.dispatches reaction.state)
    (carried : after.queue.sum Event.carried + entry.event.carried =
      gainOf Event.carried reaction.dispatches + before.queue.sum Event.carried)
    (conserved : before.Conserved delay) : after.Conserved delay := by
  have exchange {M : Type} [AddCommMonoid M] (quantity : Workload → M) :
      after.tally quantity + datacenter.tally quantity =
        before.tally quantity + reaction.state.tally quantity :=
    absorbed.sum_datacenters found
  obtain ⟨lost, sent, dropped, delivered⟩ := conserved
  obtain ⟨more, arrived, losses⟩ := conserves.arrived
  have outgoing : after.tally (Workload.outgoing delay) =
      before.tally (Workload.outgoing delay) + gainOf Event.carried reaction.dispatches := by
    apply add_right_cancel (b := datacenter.tally (Workload.outgoing delay))
    rw [exchange, conserves.outgoing]
    abel
  have incoming : after.tally Workload.incoming + more =
      before.tally Workload.incoming + entry.event.carried := by
    apply add_right_cancel (b := datacenter.tally Workload.incoming)
    rw [add_right_comm, exchange, add_assoc, arrived]
    abel
  have cards := congrArg Multiset.card incoming
  rw [Multiset.card_add, Multiset.card_add] at cards
  refine ⟨lost + more, ?_, ?_, ?_⟩
  · calc
      after.tally (Workload.outgoing delay) =
          (gainOf Event.carried reaction.dispatches + before.queue.sum Event.carried) +
            before.tally Workload.incoming + lost := by
        rw [outgoing, sent]
        abel
      _ = after.queue.sum Event.carried +
            (before.tally Workload.incoming + entry.event.carried) + lost := by
        rw [← carried]
        abel
      _ = after.queue.sum Event.carried + after.tally Workload.incoming + (lost + more) := by
        rw [← incoming]
        abel
  · have counted := exchange fun workload => workload.counters.dropped
    rw [losses] at counted
    rw [Multiset.card_add]
    omega
  · have counted : after.deliveries + datacenter.counters.deliveries =
        before.deliveries + reaction.state.counters.deliveries :=
      absorbed.sum_datacenters found
    rw [conserves.deliveries] at counted
    rw [Multiset.card_add]
    omega

end Simulation

namespace Deployment

/-- Every workload of the deployment: those that wait for a round, those that are under
way to their hosts, and those on hosts. -/
def workloads (deployment : Deployment) : List Workload :=
  deployment.broker.pending ++
    (deployment.simulation.queue.pending.flatMap fun entry => entry.event.workloads) ++
      deployment.simulation.hosted

theorem Issued.untouched {deployment : Deployment} {delay : Seconds}
    (networked : deployment.delay = some delay) {workload : Workload}
    (issued : deployment.Issued workload) : workload.Untouched delay := by
  obtain ⟨id, placement, label, respond, rfl⟩ := issued
  have transport : deployment.transport = .networked delay := by
    rw [Deployment.transport, networked]
  exact ⟨⟨transport, rfl, rfl, rfl, fun _ _ _ _ member => absurd member (Multiset.notMem_zero _)⟩,
    rfl, rfl, rfl⟩

/-- Who has the batches that were sent. -/
structure Custody (delay : Seconds) (deployment : Deployment) : Prop where
  balanced : ∀ id datacenter,
    deployment.simulation.datacenters.get? id = some datacenter → datacenter.Balanced delay
  conserved : deployment.simulation.Conserved delay

theorem Custody.congr {delay : Seconds} {before after : Deployment}
    (custody : before.Custody delay)
    (datacenters : after.simulation.datacenters = before.simulation.datacenters)
    (carried : after.simulation.queue.sum Event.carried =
      before.simulation.queue.sum Event.carried) : after.Custody delay where
  balanced := by
    rw [datacenters]
    exact custody.balanced
  conserved := by
    obtain ⟨lost, sent, dropped, delivered⟩ := custody.conserved
    refine ⟨lost, ?_, ?_, ?_⟩
    · rw [carried, Simulation.tally, Simulation.tally, datacenters]
      exact sent
    · rw [Simulation.tally, datacenters]
      exact dropped
    · rw [Simulation.deliveries, Simulation.tally, datacenters]
      exact delivered

namespace Consistent

variable {deployment : Deployment} (consistent : deployment.Consistent) {delay : Seconds}
include consistent

/-- As long as every destination is placed and nothing is reclaimed, no event fails. -/
theorem succeeds {entry : Scheduled Event} {rest : EventQueue Event} {datacenter : Datacenter}
    {reaction : Reaction Datacenter Unit} {fault : Option Fault} {next : Simulation}
    (popped : deployment.simulation.queue.pop? = some (entry, rest))
    (found : deployment.simulation.datacenters.get? entry.target = some datacenter)
    (handled : datacenter.Handled
      { registry := deployment.broker.registry, now := entry.time } entry.event reaction)
    (absorbed : deployment.simulation.Absorbed entry rest reaction fault next)
    (resolved : ∀ raised ∈ fault, ∀ vertex, raised ≠ .unresolvedDestination vertex)
    (nothing : deployment.simulation.reclaimed = 0) : reaction.result = .ok () := by
  rcases consistent.result_of_nothing nothing popped found handled with ok | ⟨vertex, lost⟩
  · exact ok
  · rcases absorbed.counted with ⟨ok, -⟩ | ⟨raised, failed, ⟨-, stops, -⟩ | ⟨mild, -⟩⟩
    · exact ok
    · cases lost.symm.trans failed
      exact absurd rfl (resolved _ stops vertex)
    · cases lost.symm.trans failed
      cases mild

theorem custody_ran {limit : Seconds} {fault : Option Fault} {next : Simulation}
    (stepped : deployment.simulation.step? deployment.broker.registry limit =
      some (fault, next)) (networked : deployment.delay = some delay)
    (resolved : ∀ raised ∈ fault, ∀ vertex, raised ≠ .unresolvedDestination vertex)
    (nothing : deployment.simulation.reclaimed = 0) (custody : deployment.Custody delay) :
    Custody delay { deployment with simulation := next } := by
  obtain ⟨entry, rest, datacenter, reaction, popped, -, found, handled, absorbed⟩ :=
    consistent.step? stepped
  have first : entry ∈ deployment.simulation.queue.pending :=
    (EventQueue.pop?_eq_some.1 popped).1 ▸ List.mem_cons_self
  have conserves : datacenter.Conserves delay entry.event reaction.dispatches
      reaction.state := by
    apply handled.conserves (consistent.lawful _ _ found)
      (consistent.ordered.instants entry first) (consistent.ordered.upcoming entry first)
    · exact consistent.succeeds popped found handled absorbed resolved nothing
    · exact custody.balanced _ _ found
    · intro host workload brings
      exact (consistent.submissions entry first host workload brings).2.untouched networked
  have carried : next.queue.sum Event.carried + entry.event.carried =
      gainOf Event.carried reaction.dispatches +
        deployment.simulation.queue.sum Event.carried := by
    rw [absorbed.queue, EventQueue.sum_dispatch, EventQueue.sum_pop _ popped, gainOf]
    abel
  constructor
  · intro id other present
    rcases absorbed.get?_datacenter present with ⟨-, rfl⟩ | ⟨-, before⟩
    · exact conserves.balanced
    · exact custody.balanced id other before
  · exact absorbed.conserved found conserves carried custody.conserved

theorem custody_step {fault : Option Fault} {next : Deployment}
    (step : Step deployment fault next) (networked : deployment.delay = some delay)
    (resolved : ∀ raised ∈ fault, ∀ vertex, raised ≠ .unresolvedDestination vertex)
    (nothing : next.simulation.reclaimed = 0) (custody : deployment.Custody delay) :
    next.Custody delay := by
  have before := consistent.reclaimed_step step nothing
  cases step with
  | queued | gathered => exact custody.congr rfl rfl
  | considered issued considered =>
      refine custody.congr rfl ?_
      cases considered with
      | rejected | postponed => rfl
      | accepted =>
          apply (EventQueue.sum_dispatch _ _ _).trans
          exact zero_add _
  | started =>
      rw [Simulation.start]
      split
      · exact custody
      · refine custody.congr rfl ((EventQueue.sum_dispatch _ _ _).trans ?_)
        have quiet : ((deployment.simulation.datacenters.keys.map fun datacenter =>
            ({ target := datacenter, delay := 0, event := .housekeeping } : Dispatch)).map
              fun dispatch => dispatch.event.carried).sum = 0 := by
          simp [Event.carried, Function.comp_def]
        rw [quiet, zero_add]
  | ran _ stepped => exact consistent.custody_ran stepped networked resolved before custody
  | reclaimed id workload =>
      rw [consistent.reclaim_of_nothing nothing]
      exact custody

end Consistent

theorem Assembled.custody_after {configuration : Configuration} {deployment : Deployment}
    (assembled : Assembled configuration deployment) {delay : Seconds}
    (networked : deployment.delay = some delay) (operations : List Operation)
    (resolved : ∀ fault ∈ deployment.faults operations,
      ∀ vertex, fault ≠ .unresolvedDestination vertex)
    (nothing : (deployment.after operations).simulation.reclaimed = 0) :
    (deployment.after operations).Custody delay := by
  have empty {M : Type} [AddCommMonoid M] (quantity : Workload → M) :
      deployment.simulation.tally quantity = 0 :=
    Table.sum_eq_zero fun _ _ found => assembled.total_eq_zero (fun _ _ => rfl) found
  have initially : deployment.Custody delay := by
    refine ⟨fun id datacenter found place host present workload member => ?_, 0, ?_, ?_, ?_⟩
    · obtain ⟨-, mips, rfl⟩ := assembled.of_host? found present
      cases member
    · rw [empty, empty, assembled.queue]
      rfl
    · exact empty _
    · rw [empty]
      apply Table.sum_eq_zero
      intro id datacenter found
      obtain ⟨settings, -, -, rfl⟩ := assembled.of_get?_datacenter found
      rw [DatacenterSettings.build_eq]
      rfl
  have both := assembled.after_induction
    (fun reached => reached.delay = some delay ∧
      (reached.simulation.reclaimed = 0 → reached.Custody delay))
    (fun fault => ∀ vertex, fault ≠ .unresolvedDestination vertex)
    ⟨networked, fun _ => initially⟩
    (fun consistent step allowed holds =>
      ⟨step.delay.trans holds.1, fun nothing =>
        consistent.custody_step step holds.1 allowed nothing
          (holds.2 (consistent.reclaimed_step step nothing))⟩)
    operations resolved
  exact both.2 nothing

/-! ## All workloads -/

theorem Consistent.issued_traveling {deployment : Deployment}
    (consistent : deployment.Consistent) {workload : Workload}
    (traveling : workload ∈ deployment.simulation.queue.pending.flatMap fun entry =>
      entry.event.workloads) : deployment.Issued workload := by
  obtain ⟨entry, pending, inside⟩ := List.mem_flatMap.1 traveling
  cases carried : entry.event with
  | submit host other =>
      rw [carried] at inside
      rw [List.mem_singleton.1 inside]
      exact (consistent.submissions entry pending host other carried).2
  | housekeeping | deliver message =>
      rw [carried] at inside
      cases inside

/-- All workloads are balanced, those that never reached a host since they did nothing. -/
theorem Custody.balanced_workloads {deployment : Deployment} {delay : Seconds}
    (custody : deployment.Custody delay) (consistent : deployment.Consistent)
    (waits : deployment.WaitsIssued) (networked : deployment.delay = some delay)
    {workload : Workload} (member : workload ∈ deployment.workloads) :
    workload.Balanced delay := by
  rcases List.mem_append.1 member with away | hosted
  · rcases List.mem_append.1 away with waiting | traveling
    · exact ((waits workload waiting).untouched networked).balanced
    · exact ((consistent.issued_traveling traveling).untouched networked).balanced
  · obtain ⟨⟨id, datacenter⟩, listed, inside⟩ := List.mem_flatMap.1 hosted
    obtain ⟨⟨place, host⟩, present, here⟩ := List.mem_flatMap.1 inside
    exact custody.balanced id datacenter (Table.mem_entries.1 listed) place host
      (Table.mem_entries.1 present) workload here

theorem card_sum_map {α β : Type} (items : List α) (parts : α → Multiset β) :
    (items.map parts).sum.card = (items.map fun item => (parts item).card).sum := by
  induction items with
  | nil => rfl
  | cons item items induction =>
      rw [List.map_cons, List.sum_cons, Multiset.card_add, induction, List.map_cons,
        List.sum_cons]

/-- Only workloads on hosts contribute to a quantity that is nothing at first. -/
theorem sum_workloads {M : Type} [AddCommMonoid M] {quantity : Workload → M}
    {deployment : Deployment} (consistent : deployment.Consistent)
    (waits : deployment.WaitsIssued)
    (nothing : ∀ workload, deployment.Issued workload → quantity workload = 0) :
    (deployment.workloads.map quantity).sum = deployment.simulation.tally quantity := by
  have waiting : (deployment.broker.pending.map quantity).sum = 0 := by
    apply List.sum_eq_zero
    intro share listed
    obtain ⟨workload, member, rfl⟩ := List.mem_map.1 listed
    exact nothing workload (waits workload member)
  have traveling : ((deployment.simulation.queue.pending.flatMap fun entry =>
      entry.event.workloads).map quantity).sum = 0 := by
    apply List.sum_eq_zero
    intro share listed
    obtain ⟨workload, member, rfl⟩ := List.mem_map.1 listed
    exact nothing workload (consistent.issued_traveling member)
  rw [workloads, List.map_append, List.map_append, List.sum_append, List.sum_append, waiting,
    traveling, zero_add, zero_add, Simulation.sum_hosted]

section Totals

variable {deployment : Deployment} {delay : Seconds} (custody : deployment.Custody delay)
  (consistent : deployment.Consistent) (waits : deployment.WaitsIssued)
  (networked : deployment.delay = some delay)
include custody consistent waits networked

/-- The counters add up to the calls that they count. -/
theorem Custody.counters :
    (deployment.workloads.map fun workload => workload.counters.sent).sum =
        (deployment.workloads.map (Workload.outgoing delay)).sum.card ∧
      (deployment.workloads.map fun workload => workload.counters.enqueued).sum =
        (deployment.workloads.map Workload.incoming).sum.card := by
  have balanced {workload : Workload} (member : workload ∈ deployment.workloads) :=
    custody.balanced_workloads consistent waits networked member
  constructor
  · rw [card_sum_map]
    exact congrArg List.sum (List.map_congr_left fun workload member => (balanced member).sent)
  · rw [card_sum_map]
    exact congrArg List.sum
      (List.map_congr_left fun workload member => (balanced member).enqueued)

/-- What is conserved on the hosts is conserved over all workloads. -/
theorem Custody.totals :
    ∃ lost : Multiset Call,
      (deployment.workloads.map (Workload.outgoing delay)).sum =
          (deployment.simulation.queue.messages.map Message.arrival : List Call) +
            (deployment.workloads.map Workload.incoming).sum + lost ∧
        (deployment.workloads.map fun workload => workload.counters.dropped).sum =
          lost.card ∧
        deployment.simulation.deliveries =
          (deployment.workloads.map Workload.incoming).sum.card + lost.card := by
  obtain ⟨lost, sent, dropped, delivered⟩ := custody.conserved
  have outgoing : (deployment.workloads.map (Workload.outgoing delay)).sum = _ :=
    sum_workloads consistent waits fun _ issued => (issued.untouched networked).outgoing
  have incoming : (deployment.workloads.map Workload.incoming).sum = _ :=
    sum_workloads consistent waits fun _ issued => (issued.untouched networked).incoming
  have losses : (deployment.workloads.map fun workload =>
      workload.counters.dropped).sum = _ :=
    sum_workloads consistent waits fun _ issued => (issued.untouched networked).dropped
  rw [EventQueue.sum_carried] at sent
  rw [outgoing, incoming, losses]
  exact ⟨lost, sent, dropped, delivered⟩

end Totals

/-- Every batch sent is under way, waits, was handed over or was dropped, each once. -/
theorem messages_conserved {configuration : Configuration} {deployment : Deployment}
    {settings : NetworkSettings} (built : configuration.build = .ok deployment)
    (networked : configuration.network = some settings) (operations : List Operation)
    (resolved : ∀ fault ∈ deployment.faults operations,
      ∀ vertex, fault ≠ .unresolvedDestination vertex)
    (unreclaimed : (deployment.after operations).simulation.reclaimed = 0) :
    let reached := deployment.after operations
    let queue := reached.simulation.queue
    (reached.workloads.map fun workload => workload.counters.sent).sum =
        queue.messages.length + reached.simulation.deliveries ∧
      reached.simulation.deliveries =
        (reached.workloads.map fun workload =>
          workload.counters.enqueued + workload.counters.dropped).sum ∧
      (∀ workload ∈ reached.workloads,
        workload.counters.enqueued = workload.counters.drained + workload.pending.size ∧
        workload.counters.drained = workload.engine.calls.countP Call.isEnqueue ∧
        ∀ time origin dest payload,
          .enqueue time origin dest payload ∈ workload.engine.calls →
            workload.placement.executes dest = true) ∧
      ∃ lost : Multiset Call,
        lost.card = (reached.workloads.map fun workload => workload.counters.dropped).sum ∧
        (reached.workloads.map (Workload.outgoing settings.delay)).sum =
          (queue.messages.map Message.arrival : List Call) +
            (reached.workloads.map fun workload =>
              workload.waiting + workload.engine.received).sum + lost := by
  intro reached queue
  have assembled := assembled_of_build built
  have delayed : deployment.delay = some settings.delay := by
    rw [assembled.delay, networked]
    rfl
  have consistent : reached.Consistent := assembled.consistent_after operations
  have waits : reached.WaitsIssued := waitsIssued_after assembled.waitsIssued operations
  have custody : reached.Custody settings.delay :=
    assembled.custody_after delayed operations resolved unreclaimed
  have kept : reached.delay = some settings.delay :=
    (delay_after assembled.waitsIssued operations).trans delayed
  obtain ⟨sent, enqueued⟩ := custody.counters consistent waits kept
  obtain ⟨lost, conserved, dropped, delivered⟩ := custody.totals consistent waits kept
  refine ⟨?_, ?_, ?_, lost, dropped.symm, conserved⟩
  · rw [sent, conserved, delivered, Multiset.card_add, Multiset.card_add, Multiset.coe_card,
      List.length_map, Nat.add_assoc]
  · rw [List.sum_map_add, enqueued, dropped, delivered]
  · intro workload member
    have fair := custody.balanced_workloads consistent waits kept member
    refine ⟨?_, ?_, fun time origin dest payload called => ?_⟩
    · rw [fair.enqueued, fair.drained, Workload.incoming, Multiset.card_add,
        Workload.card_waiting, Nat.add_comm]
    · rw [fair.drained, Engine.calls, List.countP_reverse, Engine.received, Multiset.coe_card,
        List.countP_eq_length_filter]
    · apply fair.home time origin dest payload
      apply Multiset.mem_add.2
      exact .inr (Multiset.mem_coe.2 (List.mem_filter.2 ⟨List.mem_reverse.1 called, rfl⟩))

/-- One workload sends to another that ends first.  The run is stopped while the last of
four batches is under way. -/
def crossingOperations : List Operation :=
  [.queue 7 ((Placement.unpinned [1] 6).onHost 1) 0 (Engine.relay [(1, 2)]),
    .queue 8 ((Placement.unpinned [2] 3).onHost 2) 0 (Engine.relay []), .submit, .run 9 16]

/-- One batch is under way, one waits, one was handed over and one was dropped. -/
theorem messages_conserved_crossing :
    let reached := Configuration.paired.assemble.after crossingOperations
    let queue := reached.simulation.queue
    Configuration.paired.build = .ok Configuration.paired.assemble ∧
      Configuration.paired.assemble.faults crossingOperations = [] ∧
      reached.simulation.reclaimed = 0 ∧
      (reached.workloads.map fun workload => workload.counters.sent).sum =
        queue.messages.length + reached.simulation.deliveries ∧
      queue.messages.length = 1 ∧
      reached.workloads.map (fun workload =>
          (workload.counters.sent, workload.pending.size, workload.counters.drained,
            workload.counters.dropped)) =
        [(4, 0, 0, 0), (0, 1, 1, 1)] := by
  have built := Configuration.build_of_valid Configuration.paired_valid
  have ran :
      let reached := Configuration.paired.assemble.after crossingOperations
      Configuration.paired.assemble.faults crossingOperations = [] ∧
        reached.simulation.reclaimed = 0 ∧
        reached.simulation.queue.messages.length = 1 ∧
        reached.workloads.map (fun workload =>
            (workload.counters.sent, workload.pending.size, workload.counters.drained,
              workload.counters.dropped)) =
          [(4, 0, 0, 0), (0, 1, 1, 1)] := by
    decide +kernel
  obtain ⟨smooth, unreclaimed, traveling, counts⟩ := ran
  have resolved : ∀ fault ∈ Configuration.paired.assemble.faults crossingOperations,
      ∀ vertex, fault ≠ .unresolvedDestination vertex := by
    rw [smooth]
    exact fun _ raised => absurd raised List.not_mem_nil
  have conserved := messages_conserved built rfl crossingOperations resolved unreclaimed
  exact ⟨built, smooth, unreclaimed, conserved.1, traveling, counts⟩

end Deployment

end CoSimulation
