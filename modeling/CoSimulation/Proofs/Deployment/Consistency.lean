import CoSimulation.Proofs.Announcements
import CoSimulation.Proofs.Deployment.Steps

/-!
# Registry, routes and queue agree

The broker places vertices before the datacenter that is to execute them has heard
of the workload.  `Consistent` ties the registry, the events under way, the routes
and the hosts' lists together: every placed vertex is routed or about to be, every
message finds a route when its turn comes, and every submitted workload is either
under way or known to its host, once.  Every step of a deployment keeps this, also
one that fails.
-/

namespace CoSimulation

namespace Simulation

/-- The submissions under way and the workloads that were ever submitted to a host. -/
def roster (simulation : Simulation) : Multiset (WorkloadId × HostId) :=
  simulation.queue.sum Event.enlisted +
    simulation.datacenters.sum fun _ datacenter => datacenter.roster

theorem roster_pop {simulation : Simulation} {entry : Scheduled Event}
    {rest : EventQueue Event} (popped : simulation.queue.pop? = some (entry, rest)) :
    simulation.roster =
      entry.event.enlisted + (rest.sum Event.enlisted +
        simulation.datacenters.sum fun _ datacenter => datacenter.roster) := by
  rw [roster, EventQueue.sum_pop _ popped, add_assoc]

/-- Which vertices the datacenters have routes for. -/
def Routes (simulation : Simulation) : Knowledge := fun datacenter vertex =>
  ∃ found, simulation.datacenters.get? datacenter = some found ∧
    (found.route? vertex).isSome = true

/-- The simulation with another datacenter in the place of one, and with another queue. -/
def exchange (simulation : Simulation) (queue : EventQueue Event) (id : DatacenterId)
    (next : Datacenter) : Simulation :=
  { simulation with
    queue := queue
    datacenters := simulation.datacenters.insert id next }

/-- The simulation in which a datacenter has reacted to an event that was taken from the
queue, and nothing new is dispatched yet. -/
def settle (simulation : Simulation) (entry : Scheduled Event) (rest : EventQueue Event)
    (reaction : Reaction Datacenter Unit) : Simulation :=
  simulation.exchange rest entry.target { reaction.state with completed := [] }

section Settle

variable {simulation : Simulation} {entry : Scheduled Event} {rest : EventQueue Event}
  {datacenter : Datacenter} {network : Network} {reaction : Reaction Datacenter Unit}

variable (found : simulation.datacenters.get? entry.target = some datacenter)
  (handled : datacenter.Handled network entry.event reaction)
include found handled

/-- A submission that is handled makes its workload's vertices known. -/
theorem routes_settle {id : DatacenterId} {vertex : VertexId}
    (known : simulation.Routes id vertex ∨ Promises entry id vertex) :
    (simulation.settle entry rest reaction).Routes id vertex := by
  have here : (simulation.settle entry rest reaction).datacenters.get? entry.target =
      some { reaction.state with completed := [] } := Table.get?_insert_self _ _ _
  rcases known with ⟨owner, present, routed⟩ | ⟨target, host, workload, brings, executes⟩
  · by_cases same : id = entry.target
    · subst same
      rw [found, Option.some.injEq] at present
      subst present
      exact ⟨{ reaction.state with completed := [] }, here, handled.route?_isSome routed⟩
    · refine ⟨owner, ?_, routed⟩
      rw [settle, exchange, Table.get?_insert, if_neg same]
      exact present
  · rw [brings] at handled
    subst target
    exact ⟨{ reaction.state with completed := [] }, here, handled.route?_of_submit executes⟩

theorem roster_settle {now : Seconds} (lawful : datacenter.Lawful now) :
    (simulation.settle entry rest reaction).roster =
      entry.event.enlisted + (rest.sum Event.enlisted +
        simulation.datacenters.sum fun _ datacenter => datacenter.roster) := by
  have exchanged : (simulation.settle entry rest reaction).datacenters.sum
        (fun _ datacenter => datacenter.roster) + datacenter.roster =
      simulation.datacenters.sum (fun _ datacenter => datacenter.roster) +
        reaction.state.roster := Table.sum_insert_of_present found
  rw [handled.roster lawful, ← add_assoc] at exchanged
  have enlisted : (simulation.settle entry rest reaction).datacenters.sum
        (fun _ datacenter => datacenter.roster) =
      simulation.datacenters.sum (fun _ datacenter => datacenter.roster) +
        entry.event.enlisted := by
    apply add_right_cancel (b := datacenter.roster)
    rw [exchanged]
    abel
  rw [roster, enlisted]
  change rest.sum Event.enlisted + _ = _
  abel

end Settle

end Simulation

namespace Deployment

structure Consistent (deployment : Deployment) : Prop where
  ordered : deployment.simulation.queue.Ordered
  named : ∀ id datacenter, deployment.simulation.datacenters.get? id = some datacenter →
    datacenter.id = id
  collected : ∀ id datacenter, deployment.simulation.datacenters.get? id = some datacenter →
    datacenter.completed = []
  lawful : ∀ id datacenter, deployment.simulation.datacenters.get? id = some datacenter →
    datacenter.Lawful deployment.simulation.now
  wired : ∀ datacenter host, deployment.simulation.owns datacenter host = true →
    deployment.broker.registry.datacenterOf? host = some datacenter
  targets : ∀ entry ∈ deployment.simulation.queue.pending,
    ∃ datacenter, deployment.simulation.datacenters.get? entry.target = some datacenter
  submissions : ∀ entry ∈ deployment.simulation.queue.pending, ∀ host workload,
    entry.event = .submit host workload →
      deployment.simulation.owns entry.target host = true ∧ deployment.Issued workload
  prompt : Prompt deployment.simulation.now deployment.simulation.queue.pending
  roster : deployment.simulation.roster = (deployment.broker.submitted : Multiset _)
  distinct : (deployment.broker.submitted.map Prod.fst).Nodup
  placed : ∀ vertex host, deployment.broker.registry.hostOf? vertex = some host →
    ∃ datacenter, deployment.broker.registry.datacenterOf? host = some datacenter ∧
      (deployment.simulation.Routes datacenter vertex ∨
        Promised deployment.simulation.queue.pending datacenter vertex)
  announced : Announced deployment.simulation.Routes deployment.simulation.queue.pending

theorem Issued.running {deployment : Deployment} {workload : Workload}
    (issued : deployment.Issued workload) : workload.finished = false := by
  obtain ⟨id, placement, label, respond, rfl⟩ := issued
  rfl

/-- A dispatch other than a submission reaches a datacenter, and enlists nobody. -/
structure Reaches (deployment : Deployment) (dispatch : Dispatch) : Prop where
  backed : dispatch.Backed deployment.simulation.Routes deployment.simulation.queue
  target : ∃ datacenter,
    deployment.simulation.datacenters.get? dispatch.target = some datacenter
  quiet : ∀ host workload, dispatch.event ≠ .submit host workload
  enlisted : dispatch.event.enlisted = 0

theorem reaches_of_housekeeping {deployment : Deployment} {dispatch : Dispatch}
    (tick : dispatch.event = .housekeeping)
    (target : ∃ datacenter,
      deployment.simulation.datacenters.get? dispatch.target = some datacenter) :
    Reaches deployment dispatch := by
  constructor
  · constructor
    · intro message carried
      cases tick.symm.trans carried
    · intro host workload brings
      cases tick.symm.trans brings
  · exact target
  · intro host workload brings
    cases tick.symm.trans brings
  · rw [tick]
    rfl

namespace Consistent

variable {deployment : Deployment} (consistent : deployment.Consistent)
include consistent

/-! ## The next event -/

/-- A delivery leads to a datacenter that knows its destination or is about to. -/
theorem delivery {dispatch : Dispatch}
    (delivery : dispatch.IsDelivery deployment.broker.registry) :
    ∃ message, dispatch.event = .deliver message ∧
      (deployment.simulation.Routes dispatch.target message.destVertex ∨
        Promised deployment.simulation.queue.pending dispatch.target message.destVertex) := by
  obtain ⟨message, location, carried, resolved, addressed⟩ := delivery
  obtain ⟨host, owned⟩ := Registry.resolve?_eq_some.1 resolved
  obtain ⟨datacenter, owner, ready⟩ := consistent.placed _ _ host
  rw [owned, Option.some.injEq] at owner
  rw [addressed, owner]
  exact ⟨message, carried, ready⟩

section Next

variable {entry : Scheduled Event} {rest : EventQueue Event} {datacenter : Datacenter}
  (popped : deployment.simulation.queue.pop? = some (entry, rest))
  (found : deployment.simulation.datacenters.get? entry.target = some datacenter)
include popped found

/-- A submission that is handled brings a workload that is new to its host. -/
theorem new_of_submit {id : HostId} {workload : Workload}
    (brings : entry.event = .submit id workload) {host : Host}
    (present : datacenter.host? id = some host) :
    workload.id ∉ host.scheduler.identities := by
  intro known
  have distinct := consistent.distinct.of_map
  rw [← Multiset.coe_nodup, ← consistent.roster, Simulation.roster_pop popped, brings,
    Event.enlisted, Multiset.singleton_add, Multiset.nodup_cons] at distinct
  refine distinct.1 (Multiset.mem_add.2 (.inr ?_))
  exact Table.mem_sum.2 ⟨entry.target, datacenter, found, Datacenter.mem_roster.2 ⟨host, present, known⟩⟩

theorem expects : datacenter.Expects entry.event := by
  have next := (EventQueue.pop?_eq_some.1 popped).1
  have member : entry ∈ deployment.simulation.queue.pending := next ▸ List.mem_cons_self
  cases carried : entry.event with
  | submit id workload =>
      obtain ⟨owned, issued⟩ := consistent.submissions entry member id workload carried
      obtain ⟨owner, here, present⟩ := Simulation.owns_eq_true.1 owned
      rw [found, Option.some.injEq] at here
      obtain ⟨host, known⟩ := Option.isSome_iff_exists.1 (here ▸ present)
      exact ⟨issued.running, host, known, consistent.new_of_submit popped found carried known⟩
  | housekeeping => trivial
  | deliver message =>
      have announced := consistent.announced
      rw [next] at announced
      obtain ⟨owner, here, routed⟩ := announced.1 message carried
      rw [found, Option.some.injEq] at here
      exact Option.isSome_iff_exists.1 (here ▸ routed)

/-- The next event is handled in one of the five ways. -/
theorem handled (now : Seconds) :
    datacenter.Handled { registry := deployment.broker.registry, now := now } entry.event
      (datacenter.handle { registry := deployment.broker.registry, now := now } entry.event) :=
  (consistent.lawful _ _ found).handled (consistent.expects popped found)

end Next

/-! ## Dispatching -/

theorem reaches_of_delivery {dispatch : Dispatch}
    (delivery : dispatch.IsDelivery deployment.broker.registry) :
    Reaches deployment dispatch := by
  obtain ⟨message, carried, ready⟩ := consistent.delivery delivery
  constructor
  · constructor
    · intro other same
      cases carried.symm.trans same
      exact ready
    · intro host workload brings
      cases carried.symm.trans brings
  · rcases ready with ⟨found, here, -⟩ | ⟨promising, waits, there, -⟩
    · exact ⟨found, here⟩
    · exact there ▸ consistent.targets promising waits
  · intro host workload brings
    cases carried.symm.trans brings
  · rw [carried]
    rfl

/-- Deliveries and housekeeping may be dispatched at any time. -/
theorem dispatch {dispatches : List Dispatch}
    (reaches : ∀ dispatch ∈ dispatches, Reaches deployment dispatch) :
    Consistent
      { deployment with
        simulation :=
          { deployment.simulation with
            queue := deployment.simulation.queue.dispatch dispatches } } := by
  obtain ⟨announced, prompt⟩ := consistent.announced.dispatch consistent.ordered
    consistent.prompt fun dispatch member => (reaches dispatch member).backed
  exact
    { ordered := consistent.ordered.dispatch dispatches
      named := consistent.named
      collected := consistent.collected
      lawful := by
        intro id datacenter found
        have lawful := consistent.lawful id datacenter found
        simpa [Simulation.now] using lawful
      wired := consistent.wired
      targets := by
        intro entry member
        rcases EventQueue.mem_dispatch.1 member with ⟨dispatch, new, rfl⟩ | old
        · exact (reaches dispatch new).target
        · exact consistent.targets entry old
      submissions := by
        intro entry member host workload brings
        rcases EventQueue.mem_dispatch.1 member with ⟨dispatch, new, rfl⟩ | old
        · exact absurd brings ((reaches dispatch new).quiet host workload)
        · exact consistent.submissions entry old host workload brings
      prompt := by
        simpa [Simulation.now] using prompt
      roster := by
        have none : (dispatches.map fun dispatch => dispatch.event.enlisted).sum = 0 := by
          apply List.sum_eq_zero
          intro enlisted listed
          obtain ⟨dispatch, member, rfl⟩ := List.mem_map.1 listed
          exact (reaches dispatch member).enlisted
        have same := consistent.roster
        rw [Simulation.roster] at same ⊢
        rw [EventQueue.sum_dispatch, none, zero_add]
        exact same
      distinct := consistent.distinct
      placed := by
        intro vertex host located
        obtain ⟨datacenter, owned, ready⟩ := consistent.placed vertex host located
        exact ⟨datacenter, owned, ready.imp_right fun promised => promised.dispatch dispatches⟩
      announced := announced }

/-! ## Exchanging a datacenter -/

/-- A datacenter may be exchanged for one with the same layout, and events may be taken
from the queue, as long as no vertex gets lost. -/
theorem exchange {queue : EventQueue Event} {id : DatacenterId} {datacenter next : Datacenter}
    (found : deployment.simulation.datacenters.get? id = some datacenter)
    (layout : next.layout = datacenter.layout) (collected : next.completed = [])
    (lawful : next.Lawful queue.now) (ordered : queue.Ordered)
    (forward : deployment.simulation.now.rank ≤ queue.now.rank)
    (older : ∀ entry ∈ queue.pending, entry ∈ deployment.simulation.queue.pending)
    (roster : (deployment.simulation.exchange queue id next).roster =
      deployment.simulation.roster)
    (ready : ∀ owner vertex,
      deployment.simulation.Routes owner vertex ∨
          Promised deployment.simulation.queue.pending owner vertex →
        (deployment.simulation.exchange queue id next).Routes owner vertex ∨
          Promised queue.pending owner vertex)
    (announced : Announced (deployment.simulation.exchange queue id next).Routes
      queue.pending) :
    Consistent
      { deployment with simulation := deployment.simulation.exchange queue id next } := by
  have owns : (deployment.simulation.exchange queue id next).owns =
      deployment.simulation.owns :=
    Simulation.owns_of_layout (Table.map_insert found layout)
  exact
    { ordered := ordered
      named := by
        intro other owner present
        rcases Table.of_get?_insert present with ⟨rfl, rfl⟩ | ⟨-, before⟩
        · exact (congrArg Datacenter.Layout.id layout).trans (consistent.named _ _ found)
        · exact consistent.named other owner before
      collected := by
        intro other owner present
        rcases Table.of_get?_insert present with ⟨-, rfl⟩ | ⟨-, before⟩
        · exact collected
        · exact consistent.collected other owner before
      lawful := by
        intro other owner present
        rcases Table.of_get?_insert present with ⟨-, rfl⟩ | ⟨-, before⟩
        · exact lawful
        · exact (consistent.lawful other owner before).later forward
      wired := by
        rw [owns]
        exact consistent.wired
      targets := by
        intro entry waits
        obtain ⟨owner, present⟩ := consistent.targets entry (older entry waits)
        simp only [Simulation.exchange, Table.get?_insert]
        split
        · exact ⟨next, rfl⟩
        · exact ⟨owner, present⟩
      submissions := by
        intro entry waits host workload brings
        rw [owns]
        exact consistent.submissions entry (older entry waits) host workload brings
      prompt := by
        intro entry waits host workload brings
        have due := consistent.prompt entry (older entry waits) host workload brings
        exact Int.le_trans due forward
      roster := roster.trans consistent.roster
      distinct := consistent.distinct
      placed := by
        intro vertex host located
        obtain ⟨owner, owned, known⟩ := consistent.placed vertex host located
        exact ⟨owner, owned, ready owner vertex known⟩
      announced := announced }

/-- The deployment stays consistent while a datacenter reacts to the next event. -/
theorem settle {entry : Scheduled Event} {rest : EventQueue Event} {datacenter : Datacenter}
    (popped : deployment.simulation.queue.pop? = some (entry, rest))
    (found : deployment.simulation.datacenters.get? entry.target = some datacenter)
    {reaction : Reaction Datacenter Unit}
    (handled : datacenter.Handled
      { registry := deployment.broker.registry, now := entry.time } entry.event reaction) :
    Consistent
      { deployment with simulation := deployment.simulation.settle entry rest reaction } := by
  obtain ⟨listed, shown⟩ := EventQueue.pop?_eq_some.1 popped
  have first : entry ∈ deployment.simulation.queue.pending := listed ▸ List.mem_cons_self
  have instant : entry.time.IsInstant := consistent.ordered.instants entry first
  have forward : deployment.simulation.now.rank ≤ entry.time.rank :=
    consistent.ordered.upcoming entry first
  have lawful : datacenter.Lawful deployment.simulation.now := consistent.lawful _ _ found
  apply consistent.exchange found
  · exact handled.layout
  · rfl
  · have after := handled.lawful lawful instant forward (consistent.expects popped found)
    rw [shown]
    exact ⟨after.named, after.hosts, after.routes⟩
  · exact consistent.ordered.pop popped
  · rw [shown]
    exact forward
  · intro other waits
    exact listed ▸ List.mem_cons_of_mem _ waits
  · exact (Simulation.roster_settle found handled lawful).trans
      (Simulation.roster_pop popped).symm
  · -- What the event promised is routed now.
    rintro owner vertex (known | ⟨promising, waits, promise⟩)
    · exact .inl (Simulation.routes_settle found handled (.inl known))
    · rw [listed] at waits
      rcases List.mem_cons.1 waits with same | later
      · exact .inl (Simulation.routes_settle found handled (.inr (same ▸ promise)))
      · exact .inr ⟨promising, later, promise⟩
  · have announced := consistent.announced
    rw [listed] at announced
    apply announced.2.mono
    intro owner vertex known
    exact Simulation.routes_settle found handled known

/-! ## Every step -/

/-- Counters and lists of completions do not count, nor what waits for a round. -/
theorem congr {next : Deployment}
    (queue : next.simulation.queue = deployment.simulation.queue)
    (datacenters : next.simulation.datacenters = deployment.simulation.datacenters)
    (registry : next.broker.registry = deployment.broker.registry)
    (submitted : next.broker.submitted = deployment.broker.submitted)
    (issued : next.Issued = deployment.Issued) : next.Consistent := by
  obtain ⟨simulation, broker, delay, settings, endTime⟩ := deployment
  obtain ⟨nextSimulation, nextBroker, nextDelay, nextSettings, nextEndTime⟩ := next
  cases simulation
  cases nextSimulation
  cases broker
  cases nextBroker
  simp only at queue datacenters registry submitted
  subst queue datacenters registry submitted
  exact
    { consistent with
      submissions := by
        intro entry waits host workload brings
        rw [issued]
        exact consistent.submissions entry waits host workload brings }

theorem start : Consistent { deployment with simulation := deployment.simulation.start } := by
  rw [Simulation.start]
  split
  · exact consistent
  · refine (consistent.dispatch ?_).congr rfl rfl rfl rfl rfl
    intro dispatch member
    obtain ⟨id, listed, rfl⟩ := List.mem_map.1 member
    exact reaches_of_housekeeping rfl (Table.mem_keys.1 listed)

theorem step? {limit : Seconds} {fault : Option Fault} {next : Simulation}
    (stepped : deployment.simulation.step? deployment.broker.registry limit =
      some (fault, next)) :
    ∃ entry rest datacenter reaction,
      deployment.simulation.queue.pop? = some (entry, rest) ∧ ¬ limit < entry.time ∧
      deployment.simulation.datacenters.get? entry.target = some datacenter ∧
      datacenter.Handled { registry := deployment.broker.registry, now := entry.time }
        entry.event reaction ∧
      deployment.simulation.Absorbed entry rest reaction fault next := by
  obtain ⟨entry, rest, datacenter, popped, due, found, absorbed⟩ :=
    Simulation.step?_eq_some consistent.targets stepped
  exact ⟨entry, rest, datacenter, _, popped, due, found,
    consistent.handled popped found entry.time, absorbed⟩

theorem ran {limit : Seconds} {fault : Option Fault} {next : Simulation}
    (stepped : deployment.simulation.step? deployment.broker.registry limit =
      some (fault, next)) :
    Consistent { deployment with simulation := next } := by
  obtain ⟨entry, rest, datacenter, reaction, popped, -, found, handled, absorbed⟩ :=
    consistent.step? stepped
  have settled := consistent.settle popped found handled
  refine (settled.dispatch ?_).congr absorbed.queue absorbed.datacenters rfl rfl rfl
  intro dispatch member
  rcases handled.dispatches dispatch member with delivery | ⟨own, tick⟩
  · exact settled.reaches_of_delivery delivery
  · apply reaches_of_housekeeping tick
    refine ⟨{ reaction.state with completed := [] }, ?_⟩
    rw [own, consistent.named _ _ found]
    exact Table.get?_insert_self _ _ _

/-- The only fault that stops a run is a destination that was never placed. -/
theorem ran_fault {limit : Seconds} {fault : Fault} {next : Simulation}
    (stepped : deployment.simulation.step? deployment.broker.registry limit =
      some (some fault, next)) :
    ∃ vertex, fault = .unresolvedDestination vertex := by
  obtain ⟨entry, rest, datacenter, reaction, popped, -, found, handled, absorbed⟩ :=
    consistent.step? stepped
  have first : entry ∈ deployment.simulation.queue.pending :=
    (EventQueue.pop?_eq_some.1 popped).1 ▸ List.mem_cons_self
  rcases absorbed.counted with ⟨-, none, -⟩ | ⟨raised, failed, ⟨fatal, stops, -⟩ | ⟨-, none, -⟩⟩
  · cases none
  · cases stops
    rcases handled.fault (consistent.lawful _ _ found)
      (consistent.ordered.instants entry first) (consistent.ordered.upcoming entry first)
      failed with lost | ⟨workload, -, rfl⟩
    · exact lost
    · cases fatal
  · cases none

/-- Another datacenter with the same workloads and routes in the place of one. -/
theorem replace {id : DatacenterId} {datacenter next : Datacenter}
    (found : deployment.simulation.datacenters.get? id = some datacenter)
    (layout : next.layout = datacenter.layout)
    (lawful : next.Lawful deployment.simulation.now) (collected : next.completed = [])
    (roster : next.roster = datacenter.roster) (routes : next.routes = datacenter.routes) :
    Consistent
      { deployment with
        simulation := deployment.simulation.exchange deployment.simulation.queue id next } := by
  have known : (deployment.simulation.exchange deployment.simulation.queue id next).Routes =
      deployment.simulation.Routes := by
    funext other vertex
    simp only [Simulation.Routes, Simulation.exchange, Table.get?_insert]
    split
    · rename_i same
      subst same
      simp [found, Datacenter.route?, routes]
    · rfl
  apply consistent.exchange found layout collected lawful consistent.ordered
  · exact Int.le_refl _
  · exact fun _ waits => waits
  · have exchanged : (deployment.simulation.datacenters.insert id next).sum
            (fun _ datacenter => datacenter.roster) + datacenter.roster =
        deployment.simulation.datacenters.sum (fun _ datacenter => datacenter.roster) +
          next.roster := Table.sum_insert_of_present found
    rw [roster] at exchanged
    exact congrArg (deployment.simulation.queue.sum Event.enlisted + ·)
      (add_right_cancel exchanged)
  · rw [known]
    exact fun _ _ ready => ready
  · rw [known]
    exact consistent.announced

/-- An attempt to reclaim a workload changes nothing, or a host hands the workload back. -/
theorem reclaim_cases (id : DatacenterId) (workload : WorkloadId) :
    (deployment.reclaim id workload).2 = deployment ∨
      ∃ datacenter owner host returned scheduler,
        deployment.simulation.datacenters.get? id = some datacenter ∧
        datacenter.host? owner = some host ∧
        Scheduler.HandedBack host.scheduler workload returned scheduler ∧
        (deployment.reclaim id workload).2 =
          { deployment with
            simulation :=
              { deployment.simulation with
                datacenters := deployment.simulation.datacenters.insert id
                  (datacenter.reschedule owner host scheduler) } } := by
  rw [Deployment.reclaim]
  split
  · exact .inl rfl
  · rename_i datacenter found
    split
    · exact .inl rfl
    · rename_i returned next reclaimed
      obtain ⟨owner, host, scheduler, present, handed, rfl⟩ :=
        (consistent.lawful id datacenter found).reclaim_eq_ok reclaimed
      exact .inr ⟨datacenter, owner, host, returned, scheduler, found, present, handed, rfl⟩

theorem reclaim (id : DatacenterId) (workload : WorkloadId) :
    (deployment.reclaim id workload).2.Consistent := by
  rcases consistent.reclaim_cases id workload with
    same | ⟨datacenter, owner, host, returned, scheduler, found, present, handed, same⟩
  · rw [same]
    exact consistent
  · have lawful := consistent.lawful id datacenter found
    have here := lawful.hosts owner host present
    rw [same]
    exact consistent.replace found (Datacenter.layout_reschedule present handed.gap)
      (lawful.reschedule present (here.reclaim handed)
        fun vertex other serves => serves.reclaim here.formed handed)
      (consistent.collected id datacenter found)
      (Datacenter.roster_reschedule present handed.identities) rfl

theorem distinct_append {workload : WorkloadId}
    (new : ∀ entry ∈ deployment.broker.submitted, entry.1 ≠ workload) (host : HostId) :
    ((deployment.broker.submitted ++ [(workload, host)]).map Prod.fst).Nodup := by
  rw [List.map_append, List.nodup_append]
  refine ⟨consistent.distinct, List.nodup_singleton _, ?_⟩
  rintro id listed other single rfl
  obtain ⟨entry, member, rfl⟩ := List.mem_map.1 listed
  exact new entry member (List.mem_singleton.1 single)

theorem accepted {workload : Workload} (issued : deployment.Issued workload)
    {host : HostId} {datacenter : DatacenterId} {registry : Registry} {next : Broker}
    (new : ∀ entry ∈ deployment.broker.submitted, entry.1 ≠ workload.id)
    (known : deployment.broker.registry.datacenterOf? host = some datacenter)
    (owned : deployment.simulation.owns datacenter host = true)
    (assigned : deployment.broker.registry.assignAll workload.placement.vertices.keys host =
      .ok registry)
    (registered : next.registry = registry)
    (submitted : next.submitted = deployment.broker.submitted ++ [(workload.id, host)]) :
    (deployment.considered next
      [{ target := datacenter, delay := 0, event := .submit host workload }]).Consistent := by
  obtain ⟨owners, hosts⟩ := Registry.assignAll_eq_ok assigned
  let request : Dispatch :=
    { target := datacenter, delay := 0, event := .submit host workload }
  have backed : ∀ dispatch ∈ [request],
      dispatch.Backed deployment.simulation.Routes deployment.simulation.queue := by
    intro dispatch member
    rw [List.mem_singleton.1 member]
    exact ⟨fun _ carried => (by cases carried), fun _ _ _ => rfl⟩
  obtain ⟨announced, prompt⟩ := consistent.announced.dispatch consistent.ordered
    consistent.prompt backed
  have owner (other : HostId) : next.registry.datacenterOf? other =
      deployment.broker.registry.datacenterOf? other := by
    rw [registered, Registry.datacenterOf?, owners]
    rfl
  have entries {entry : Scheduled Event}
      (waits : entry ∈ (deployment.simulation.queue.dispatch [request]).pending) :
      entry = deployment.simulation.queue.entryOf request ∨
        entry ∈ deployment.simulation.queue.pending := by
    rcases EventQueue.mem_dispatch.1 waits with ⟨dispatch, member, rfl⟩ | old
    · exact .inl (congrArg _ (List.mem_singleton.1 member))
    · exact .inr old
  have sent : deployment.simulation.queue.entryOf request ∈
      (deployment.simulation.queue.dispatch [request]).pending :=
    EventQueue.mem_dispatch.2 (.inl ⟨request, List.mem_cons_self, rfl⟩)
  exact
    { ordered := consistent.ordered.dispatch [request]
      named := consistent.named
      collected := consistent.collected
      lawful := consistent.lawful
      wired := by
        intro other place owns
        exact (owner place).trans (consistent.wired other place owns)
      targets := by
        intro entry waits
        rcases entries waits with rfl | old
        · obtain ⟨found, here, -⟩ := Simulation.owns_eq_true.1 owned
          exact ⟨found, here⟩
        · exact consistent.targets entry old
      submissions := by
        intro entry waits place other brings
        rcases entries waits with rfl | old
        · cases brings
          exact ⟨owned, issued⟩
        · exact consistent.submissions entry old place other brings
      prompt := prompt
      roster := by
        have before := consistent.roster
        change (deployment.simulation.queue.dispatch [request]).sum Event.enlisted + _ =
          (next.submitted : Multiset _)
        rw [submitted, ← Multiset.coe_add, ← before, EventQueue.sum_dispatch,
          Simulation.roster, add_assoc, add_comm]
        rfl
      distinct := by
        change (next.submitted.map Prod.fst).Nodup
        rw [submitted]
        exact consistent.distinct_append new host
      placed := by
        intro vertex place located
        change next.registry.hostOf? vertex = some place at located
        rw [registered, hosts] at located
        change ∃ id, next.registry.datacenterOf? place = some id ∧ _
        rw [owner]
        split at located
        · rename_i executed
          cases located
          exact ⟨datacenter, known, .inr ⟨_, sent, rfl, host, workload, rfl,
            Table.contains_iff.2 executed⟩⟩
        · obtain ⟨id, owned, ready⟩ := consistent.placed vertex place located
          exact ⟨id, owned, ready.imp_right fun promised => promised.dispatch [request]⟩
      announced := announced }

theorem considered {workload : Workload} {next : Broker} {dispatches : List Dispatch}
    (issued : deployment.Issued workload)
    (considered : Broker.Considered deployment.simulation.owns deployment.broker workload
      next dispatches) :
    (deployment.considered next dispatches).Consistent := by
  cases considered with
  | rejected | postponed => exact consistent.congr rfl rfl rfl rfl rfl
  | accepted nextHost new known owned assigned =>
      exact consistent.accepted issued new known owned assigned rfl rfl

theorem step {fault : Option Fault} {next : Deployment} (step : Step deployment fault next) :
    next.Consistent := by
  cases step with
  | queued | gathered => exact consistent.congr rfl rfl rfl rfl rfl
  | considered issued considered => exact consistent.considered issued considered
  | started => exact consistent.start
  | ran _ stepped => exact consistent.ran stepped
  | reclaimed id workload => exact consistent.reclaim id workload

theorem layout_step {fault : Option Fault} {next : Deployment}
    (step : Step deployment fault next) :
    next.simulation.layout = deployment.simulation.layout := by
  cases step with
  | queued | gathered | considered => rfl
  | started =>
      rw [Simulation.start]
      split <;> rfl
  | ran _ stepped =>
      obtain ⟨entry, rest, datacenter, reaction, -, -, found, handled, absorbed⟩ :=
        consistent.step? stepped
      rw [Simulation.layout, absorbed.datacenters]
      exact Table.map_insert found handled.layout
  | reclaimed id workload =>
      rcases consistent.reclaim_cases id workload with
        same | ⟨datacenter, owner, host, returned, scheduler, found, present, handed, same⟩
      · rw [same]
      · rw [same]
        exact Table.map_insert found (Datacenter.layout_reschedule present handed.gap)

theorem steps {faults : List Fault} {next : Deployment} (steps : Steps deployment faults next) :
    next.Consistent :=
  steps.keep Consistent (fun _ => True) (fun _ _ => trivial)
    (fun consistent step _ => consistent.step step) consistent

end Consistent

end Deployment

end CoSimulation
