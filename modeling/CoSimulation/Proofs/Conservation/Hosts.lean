import CoSimulation.Proofs.Conservation.Turns
import CoSimulation.Proofs.Datacenter.Handling

/-!
# Sums over the workloads of a datacenter

A quantity that every turn changes by what it dispatches changes in a pass by what the
pass dispatches.  A submission adds the share of its workload, and a delivery exchanges
the share of the workload that receives the message.
-/

namespace CoSimulation

section Lists

variable {α M : Type} [AddCommMonoid M]

theorem sum_map_flatMap {β : Type} (items : List α) (parts : α → List β) (quantity : β → M) :
    ((items.flatMap parts).map quantity).sum =
      (items.map fun item => ((parts item).map quantity).sum).sum := by
  induction items with
  | nil => rfl
  | cons item items induction =>
      rw [List.flatMap_cons, List.map_append, List.sum_append, induction, List.map_cons,
        List.sum_cons]

theorem sum_map_add_of_eq {items : List α} {before after gained : α → M}
    (same : ∀ item ∈ items, after item = before item + gained item) :
    (items.map after).sum = (items.map before).sum + (items.map gained).sum := by
  rw [List.map_congr_left same]
  exact List.sum_map_add

end Lists

def Scheduler.tally {M : Type} [AddCommMonoid M] (quantity : Workload → M)
    (scheduler : Scheduler) : M := (scheduler.workloads.map quantity).sum

theorem gainOf_append {M : Type} [AddCommMonoid M] (gain : Event → M)
    (early late : List Dispatch) :
    gainOf gain (early ++ late) = gainOf gain early + gainOf gain late := by
  rw [gainOf, List.map_append, List.sum_append]
  rfl

theorem gainOf_eq_zero {M : Type} [AddCommMonoid M] {gain : Event → M}
    {dispatches : List Dispatch}
    (nothing : ∀ dispatch ∈ dispatches, gain dispatch.event = 0) :
    gainOf gain dispatches = 0 := by
  apply List.sum_eq_zero
  intro share listed
  obtain ⟨dispatch, member, rfl⟩ := List.mem_map.1 listed
  exact nothing dispatch member

/-- A quantity that every turn on a host changes by what it dispatches. -/
def Host.Gains {M : Type} [AddCommMonoid M] (quantity : Workload → M) (gain : Event → M)
    (network : Network) (host : Host) : Prop :=
  ∀ workload ∈ host.scheduler.active,
    quantity (workload.turn network network.now host.scheduler.previous
        (host.scheduler.capacity host.mips)).workload =
      quantity workload +
        gainOf gain (workload.turn network network.now host.scheduler.previous
          (host.scheduler.capacity host.mips)).dispatches

section Tally

variable {M : Type} [AddCommMonoid M] {quantity : Workload → M} {gain : Event → M}
  {network : Network}

theorem Host.tally_ticked {host : Host} (formed : host.scheduler.WellFormed)
    (gains : host.Gains quantity gain network) :
    (host.ticked network network.now).scheduler.tally quantity =
      host.scheduler.tally quantity +
        gainOf gain (host.tick network network.now).dispatches := by
  have listed : (host.ticked network network.now).scheduler.workloads.Perm
      (host.scheduler.turned network network.now host.mips ++
        host.scheduler.finished.values) := Host.ticked_workloads formed network.now
  have dispatched : gainOf gain (host.tick network network.now).dispatches =
      (host.scheduler.active.map fun workload =>
        gainOf gain (workload.turn network network.now host.scheduler.previous
          (host.scheduler.capacity host.mips)).dispatches).sum := by
    rw [gainOf, Host.tick, Scheduler.tick, Scheduler.turns, List.flatMap_map,
      sum_map_flatMap]
    rfl
  have turned : ((host.scheduler.turned network network.now host.mips).map quantity).sum =
      (host.scheduler.active.map quantity).sum +
        gainOf gain (host.tick network network.now).dispatches := by
    rw [dispatched, Scheduler.turned_eq, List.map_map]
    exact sum_map_add_of_eq gains
  rw [Scheduler.tally, (listed.map quantity).sum_eq, List.map_append, List.sum_append, turned,
    Scheduler.tally, Scheduler.workloads, List.map_append, List.sum_append]
  abel

def Datacenter.tally (quantity : Workload → M) (datacenter : Datacenter) : M :=
  datacenter.total fun _ scheduler => scheduler.tally quantity

variable {datacenter : Datacenter} {now : Seconds}

theorem Datacenter.Lawful.tally_pass (lawful : datacenter.Lawful now)
    (quiet : gain .housekeeping = 0)
    (gains : ∀ id host, datacenter.host? id = some host → host.Gains quantity gain network) :
    (datacenter.pass network).1.tally quantity =
      datacenter.tally quantity + gainOf gain (datacenter.pass network).2.1 := by
  obtain ⟨following, dispatched, -, own⟩ := datacenter.pass_dispatches network
  have nothing : gainOf gain following = 0 := gainOf_eq_zero fun dispatch member => by
    rw [(own dispatch member).2, quiet]
  have sent : gainOf gain (datacenter.sent network) =
      datacenter.hosts.sum fun _ host => gainOf gain (host.tick network network.now).dispatches := by
    rw [gainOf, Datacenter.sent, sum_map_flatMap, Table.sum, Table.values, List.map_map]
    rfl
  rw [dispatched, gainOf_append, nothing, add_zero, sent, Datacenter.tally, Datacenter.total_pass,
    Datacenter.tally, Datacenter.total, ← Table.sum_add]
  exact Table.sum_congr fun id host found =>
    Host.tally_ticked (lawful.hosts id host found).formed (gains id host found)

theorem Datacenter.Lawful.tally_pass_of_eq (lawful : datacenter.Lawful now)
    (same : ∀ id host, datacenter.host? id = some host →
      ∀ workload ∈ host.scheduler.active,
        quantity (workload.turn network network.now host.scheduler.previous
          (host.scheduler.capacity host.mips)).workload = quantity workload) :
    (datacenter.pass network).1.tally quantity = datacenter.tally quantity := by
  let none : Event → M := fun _ => 0
  have nothing (dispatches : List Dispatch) : gainOf none dispatches = 0 :=
    gainOf_eq_zero fun _ _ => rfl
  have passed : (datacenter.pass network).1.tally quantity =
      datacenter.tally quantity + gainOf none (datacenter.pass network).2.1 :=
    lawful.tally_pass rfl fun id host found workload active => by
      rw [nothing, add_zero]
      exact same id host found workload active
  rw [passed, nothing, add_zero]

end Tally

/-! ## What a datacenter conserves -/

/-- A workload that has neither sent nor received anything. -/
structure Workload.Untouched (delay : Seconds) (workload : Workload) : Prop where
  balanced : workload.Balanced delay
  outgoing : workload.outgoing delay = 0
  incoming : workload.incoming = 0
  dropped : workload.counters.dropped = 0

namespace Datacenter

def Balanced (delay : Seconds) (datacenter : Datacenter) : Prop :=
  ∀ id host, datacenter.host? id = some host →
    ∀ workload ∈ host.scheduler.workloads, workload.Balanced delay

/-- What was sent is dispatched, and what an event carries arrives or is lost. -/
structure Conserves (delay : Seconds) (before : Datacenter) (event : Event)
    (dispatches : List Dispatch) (after : Datacenter) : Prop where
  balanced : after.Balanced delay
  outgoing : after.tally (Workload.outgoing delay) =
    before.tally (Workload.outgoing delay) + gainOf Event.carried dispatches
  arrived : ∃ lost : Multiset Call,
    after.tally Workload.incoming + lost = before.tally Workload.incoming + event.carried ∧
      after.tally (fun workload => workload.counters.dropped) =
        before.tally (fun workload => workload.counters.dropped) + lost.card
  deliveries : after.counters.deliveries =
    before.counters.deliveries + event.carried.card

section Pass

variable {datacenter : Datacenter} {network : Network} {now delay : Seconds}

/-- Without faults every turn of a pass passes on what it sends. -/
theorem Lawful.passes (lawful : datacenter.Lawful now) (clock : network.now.IsInstant)
    (forward : now.rank ≤ network.now.rank) (succeeds : (datacenter.pass network).2.2 = [])
    (balanced : datacenter.Balanced delay) {id : HostId} {host : Host}
    (found : datacenter.host? id = some host) {workload : Workload}
    (active : workload ∈ host.scheduler.active) :
    Workload.Passes delay workload
      (workload.turn network network.now host.scheduler.previous
        (host.scheduler.capacity host.mips)) := by
  have here : host.Lawful network.now := (lawful.hosts id host found).later forward
  refine (balanced id host found workload (List.mem_append_left _ active)).turn
    (here.formed.running workload active) (here.monotone clock) ?_
  cases ticked : (host.tick network network.now).result with
  | error fault =>
      have raised := (mem_pass_faults datacenter network).2
        ⟨host, Table.mem_values.2 ⟨id, found⟩, ticked⟩
      rw [succeeds] at raised
      cases raised
  | ok wakeUp =>
      have none := List.filterMap_eq_nil_iff.1 (reportWorst_eq_ok_iff.1 ticked).1
      exact none _ (List.mem_map_of_mem active)

theorem Lawful.balanced_pass (lawful : datacenter.Lawful now)
    (passes : ∀ id host, datacenter.host? id = some host →
      ∀ workload ∈ host.scheduler.active,
        Workload.Passes delay workload
          (workload.turn network network.now host.scheduler.previous
            (host.scheduler.capacity host.mips)))
    (balanced : datacenter.Balanced delay) :
    (datacenter.pass network).1.Balanced delay := by
  intro id after found workload member
  obtain ⟨host, before, rfl⟩ := of_host?_pass found
  have formed := (lawful.hosts id host before).formed
  rcases List.mem_append.1 ((Host.ticked_workloads formed network.now).mem_iff.1 member) with
    turned | finished
  · rw [Scheduler.turned_eq] at turned
    obtain ⟨running, active, rfl⟩ := List.mem_map.1 turned
    exact (passes id host before running active).balanced
  · exact balanced id host before workload (List.mem_append_right _ finished)

/-- A pass without faults conserves what is sent and received. -/
theorem Lawful.conserves_pass (lawful : datacenter.Lawful now)
    (clock : network.now.IsInstant) (forward : now.rank ≤ network.now.rank)
    (succeeds : (datacenter.pass network).2.2 = []) (balanced : datacenter.Balanced delay) :
    Conserves delay datacenter .housekeeping (datacenter.pass network).2.1
      (datacenter.pass network).1 := by
  have passes : ∀ id host, datacenter.host? id = some host →
      ∀ workload ∈ host.scheduler.active, Workload.Passes delay workload
        (workload.turn network network.now host.scheduler.previous
          (host.scheduler.capacity host.mips)) :=
    fun _ _ found _ active => lawful.passes clock forward succeeds balanced found active
  refine ⟨lawful.balanced_pass passes balanced, ?_, ⟨0, ?_, ?_⟩, rfl⟩
  · exact lawful.tally_pass rfl fun id host found workload active =>
      (passes id host found workload active).outgoing
  · rw [lawful.tally_pass_of_eq fun id host found workload active =>
      (passes id host found workload active).incoming]
    rfl
  · exact lawful.tally_pass_of_eq fun id host found workload active =>
      (passes id host found workload active).dropped

end Pass

theorem Balanced.reschedule {datacenter : Datacenter} {id : HostId} {host : Host}
    {next : Scheduler} {delay : Seconds} (balanced : datacenter.Balanced delay)
    (here : ∀ workload ∈ next.workloads, workload.Balanced delay) :
    (datacenter.reschedule id host next).Balanced delay := by
  intro other after present
  rw [host?_reschedule] at present
  split at present
  · cases present
    exact here
  · exact balanced other after present

section Reschedule

variable {datacenter : Datacenter} {id : HostId} {host : Host} {next : Scheduler}
  {now delay : Seconds} (found : datacenter.host? id = some host)
include found

theorem tally_submit {M : Type} [AddCancelCommMonoid M] {quantity : Workload → M}
    {workload : Workload} {estimate : Seconds}
    (taken : host.scheduler.submit workload = .ok (estimate, next))
    (nothing : quantity workload = 0) :
    (datacenter.reschedule id host next).tally quantity = datacenter.tally quantity := by
  obtain ⟨-, -, rfl⟩ := Scheduler.submit_eq_ok taken
  apply total_reschedule_of_eq found
  simp [Scheduler.tally, Scheduler.workloads, nothing]

/-- The workload that receives a message exchanges its share. -/
theorem tally_delivered {M : Type} [AddCancelCommMonoid M] (quantity : Workload → M)
    {before after : List Workload} {workload : Workload} {message : Message}
    (listed : host.scheduler.workloads = before ++ workload :: after)
    (changed : next.workloads = before ++ workload.receive message :: after) :
    (datacenter.reschedule id host next).tally quantity + quantity workload =
      datacenter.tally quantity + quantity (workload.receive message) := by
  have exchanged : (datacenter.reschedule id host next).tally quantity +
      host.scheduler.tally quantity = datacenter.tally quantity + next.tally quantity :=
    total_reschedule found fun _ scheduler => scheduler.tally quantity
  have share : next.tally quantity + quantity workload =
      host.scheduler.tally quantity + quantity (workload.receive message) := by
    simp only [Scheduler.tally, listed, changed, List.map_append, List.map_cons,
      List.sum_append, List.sum_cons]
    abel
  apply add_right_cancel (b := host.scheduler.tally quantity)
  calc
    (datacenter.reschedule id host next).tally quantity + quantity workload +
        host.scheduler.tally quantity =
        datacenter.tally quantity + (next.tally quantity + quantity workload) := by
      rw [add_right_comm, exchanged, add_assoc]
    _ = datacenter.tally quantity + quantity (workload.receive message) +
        host.scheduler.tally quantity := by
      rw [share]
      abel

end Reschedule

/-- A message goes to a workload that executes its destination. -/
theorem Lawful.executes {datacenter : Datacenter} {now : Seconds}
    (lawful : datacenter.Lawful now) {vertex : VertexId} {route : Route}
    (routed : datacenter.route? vertex = some route) {host : Host}
    (found : datacenter.host? route.host = some host) {workload : Workload}
    (member : workload ∈ host.scheduler.workloads) (named : workload.id = route.workload) :
    workload.placement.executes vertex = true := by
  obtain ⟨serving, present, serves⟩ := lawful.routes vertex route routed
  rw [found, Option.some.injEq] at present
  subst present
  have distinct := (lawful.hosts _ host found).formed.distinct
  rw [(lawful.hosts _ host found).formed.identities_eq, List.nodup_append] at distinct
  rcases serves with reclaimed | ⟨other, here, same, executes⟩
  · exact absurd named (distinct.2.2 _ (List.mem_map_of_mem member) _ reclaimed)
  · rw [List.inj_on_of_nodup_map distinct.1 member here (named.trans same.symm)]
    exact executes

/-- A workload that was taken in has sent and received nothing yet. -/
theorem Conserves.submit {datacenter passed : Datacenter} {delay estimate : Seconds}
    {dispatches : List Dispatch}
    (conserves : Conserves delay datacenter .housekeeping dispatches passed) {id : HostId}
    {host : Host} (found : passed.host? id = some host) {next : Scheduler}
    {workload : Workload} (taken : host.scheduler.submit workload = .ok (estimate, next))
    (new : workload.Untouched delay) (routes : Table Route) {counters : DatacenterCounters}
    (deliveries : counters.deliveries = datacenter.counters.deliveries) :
    Conserves delay datacenter (.submit id workload)
      (dispatches ++ datacenter.housekeepingAtEnd estimate)
      { passed.reschedule id host next with routes := routes, counters := counters } := by
  have same {M : Type} [AddCancelCommMonoid M] {quantity : Workload → M}
      (nothing : quantity workload = 0) :
      (passed.reschedule id host next).tally quantity = passed.tally quantity :=
    tally_submit found taken nothing
  have quiet : gainOf Event.carried (datacenter.housekeepingAtEnd estimate) = 0 := by
    rw [housekeepingAtEnd]
    split <;> rfl
  have listed : ∀ other ∈ next.workloads, other.Balanced delay := by
    obtain ⟨-, -, rfl⟩ := Scheduler.submit_eq_ok taken
    intro other member
    rcases List.mem_append.1 member with active | finished
    · rcases List.mem_append.1 active with old | last
      · exact conserves.balanced id host found other (List.mem_append_left _ old)
      · exact List.mem_singleton.1 last ▸ new.balanced
    · exact conserves.balanced id host found other (List.mem_append_right _ finished)
  obtain ⟨lost, incoming, dropped⟩ := conserves.arrived
  refine ⟨conserves.balanced.reschedule listed, ?_, ⟨lost, ?_, ?_⟩, deliveries⟩
  · rw [gainOf_append, quiet, add_zero, ← conserves.outgoing]
    exact same new.outgoing
  · exact (congrArg (· + lost) (same new.incoming)).trans incoming
  · exact (same new.dropped).trans dropped

/-- A message is received by the workload that it is routed to. -/
theorem Lawful.conserves_deliver {datacenter : Datacenter} {now delay : Seconds}
    (lawful : datacenter.Lawful now) (balanced : datacenter.Balanced delay)
    {message : Message} {route : Route} {host : Host} {next : Scheduler}
    (routed : datacenter.route? message.destVertex = some route)
    (found : datacenter.host? route.host = some host)
    (taken : Scheduler.Delivered host.scheduler route.workload message next)
    {counters : DatacenterCounters}
    (deliveries : counters.deliveries = datacenter.counters.deliveries + 1) :
    Conserves delay datacenter (.deliver message) []
      { datacenter.reschedule route.host host next with counters := counters } := by
  obtain ⟨before, workload, after, named, listed, changed⟩ := taken.changed
  have member : workload ∈ host.scheduler.workloads := by
    rw [listed]
    exact List.mem_append_right _ List.mem_cons_self
  obtain ⟨received, outgoing, lost, incoming, dropped⟩ :=
    (balanced _ host found workload member).receive
      (lawful.executes routed found member named)
  have exchanged {M : Type} [AddCancelCommMonoid M] (quantity : Workload → M) :
      (datacenter.reschedule route.host host next).tally quantity + quantity workload =
        datacenter.tally quantity + quantity (workload.receive message) :=
    tally_delivered found quantity listed changed
  have kept : ∀ other ∈ next.workloads, other.Balanced delay := by
    intro other present
    have old := balanced _ host found
    rw [listed] at old
    rw [changed] at present
    rcases List.mem_append.1 present with early | late
    · exact old other (List.mem_append_left _ early)
    · rcases List.mem_cons.1 late with same | late
      · exact same ▸ received
      · exact old other (List.mem_append_right _ (List.mem_cons_of_mem _ late))
  refine ⟨balanced.reschedule kept, ?_, ⟨lost, ?_, ?_⟩, deliveries⟩
  · have same := exchanged (Workload.outgoing delay)
    rw [outgoing] at same
    exact (add_right_cancel same).trans (add_zero _).symm
  · change (datacenter.reschedule route.host host next).tally Workload.incoming + lost =
      datacenter.tally Workload.incoming + {message.arrival}
    apply add_right_cancel (b := workload.incoming)
    rw [add_right_comm, exchanged, add_assoc, incoming]
    abel
  · change (datacenter.reschedule route.host host next).tally
        (fun workload => workload.counters.dropped) =
      datacenter.tally (fun workload => workload.counters.dropped) + lost.card
    have same := exchanged fun workload => workload.counters.dropped
    rw [dropped] at same
    omega

/-- An event that is handled without a fault conserves what is sent and received. -/
theorem Handled.conserves {datacenter : Datacenter} {network : Network}
    {now delay : Seconds} {event : Event} {reaction : Reaction Datacenter Unit}
    (handled : datacenter.Handled network event reaction)
    (lawful : datacenter.Lawful now) (clock : network.now.IsInstant)
    (forward : now.rank ≤ network.now.rank) (succeeds : reaction.result = .ok ())
    (balanced : datacenter.Balanced delay)
    (untouched : ∀ host workload, event = .submit host workload → workload.Untouched delay) :
    Conserves delay datacenter event reaction.dispatches reaction.state := by
  cases handled with
  | skipped soon counters deliveries =>
      exact ⟨balanced, (add_zero _).symm, ⟨0, rfl, rfl⟩, deliveries⟩
  | passed => exact lawful.conserves_pass clock forward (reportWorst_eq_ok_iff.1 succeeds).1 balanced
  | @accepted id host workload estimate next found taken routes counters routed deliveries =>
      have passed := lawful.conserves_pass clock forward (reportWorst_eq_ok_iff.1 succeeds).1 balanced
      exact passed.submit found taken (untouched id workload rfl) routes deliveries
  | delivered routed found taken counters deliveries =>
      exact lawful.conserves_deliver balanced routed found taken deliveries
  | refused => cases succeeds

end Datacenter

end CoSimulation
