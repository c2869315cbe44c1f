import CoSimulation.Proofs.Datacenter.Hosts

/-!
# How a datacenter handles an event

A datacenter expects housekeeping at any time, a submission to a host of its own of
a workload that is new there, and messages for the vertices it routes.  Whatever it
expects is handled in one of five ways, and in each of them the datacenter stays
lawful, keeps account of its workloads, and fails for no other reason than a
destination that was never placed or a workload that was reclaimed.
-/

namespace CoSimulation

/-- The workload that an event brings to a host. -/
def Event.enlisted : Event → Multiset (WorkloadId × HostId)
  | submit host workload => {(workload.id, host)}
  | housekeeping | deliver _ => 0

namespace Datacenter

/-! ## Accounts of the workloads -/

section Accounts

variable (datacenter : Datacenter)

/-- The workloads that were ever submitted to the hosts. -/
def roster : Multiset (WorkloadId × HostId) :=
  datacenter.total fun id scheduler =>
    ((scheduler.identities.map fun workload => (workload, id) :
      List (WorkloadId × HostId)) : Multiset (WorkloadId × HostId))

/-- The workloads that have ended, reclaimed or not. -/
def settled : Multiset WorkloadId :=
  datacenter.total fun _ scheduler => (scheduler.settled : Multiset WorkloadId)

def reclaimed : Multiset WorkloadId :=
  datacenter.total fun _ scheduler => (scheduler.reclaimed : Multiset WorkloadId)

variable {datacenter} {id : HostId} {host : Host} {next : Scheduler}

theorem mem_reclaimed (found : datacenter.host? id = some host) {workload : WorkloadId}
    (reclaimed : workload ∈ host.scheduler.reclaimed) : workload ∈ datacenter.reclaimed := by
  rw [Datacenter.reclaimed, total, Table.mem_sum]
  exact ⟨id, host, found, Multiset.mem_coe.2 reclaimed⟩

theorem mem_roster {workload : WorkloadId} {owner : HostId} :
    (workload, owner) ∈ datacenter.roster ↔
      ∃ host, datacenter.host? owner = some host ∧ workload ∈ host.scheduler.identities := by
  rw [roster, total, Table.mem_sum]
  simp [host?]

variable (found : datacenter.host? id = some host)
include found

theorem roster_reschedule (same : next.identities.Perm host.scheduler.identities) :
    (datacenter.reschedule id host next).roster = datacenter.roster :=
  total_reschedule_of_eq found (Multiset.coe_eq_coe.2 (same.map _))

theorem roster_reschedule_of_submit {workload : WorkloadId}
    (more : next.identities.Perm (workload :: host.scheduler.identities)) :
    (datacenter.reschedule id host next).roster =
      datacenter.roster + {(workload, id)} := by
  let entries : HostId → Scheduler → Multiset (WorkloadId × HostId) := fun id scheduler =>
    (scheduler.identities.map fun workload => (workload, id) : List (WorkloadId × HostId))
  have share : entries id next = entries id host.scheduler + {(workload, id)} := by
    simp only [entries]
    rw [Multiset.coe_eq_coe.2 (more.map _), List.map_cons, ← Multiset.cons_coe,
      ← Multiset.singleton_add, add_comm]
  have exchanged : (datacenter.reschedule id host next).total entries +
      entries id host.scheduler = datacenter.total entries + entries id next :=
    total_reschedule found entries
  rw [share, add_left_comm, add_comm] at exchanged
  exact add_left_cancel exchanged

theorem settled_reschedule (same : next.settled.Perm host.scheduler.settled) :
    (datacenter.reschedule id host next).settled = datacenter.settled :=
  total_reschedule_of_eq found (Multiset.coe_eq_coe.2 same)

theorem reclaimed_reschedule (same : next.reclaimed = host.scheduler.reclaimed) :
    (datacenter.reschedule id host next).reclaimed = datacenter.reclaimed :=
  total_reschedule_of_eq found (congrArg _ same)

end Accounts

/-- The events that make sense to a datacenter. -/
def Expects (datacenter : Datacenter) : Event → Prop
  | .submit host workload =>
      workload.finished = false ∧ ∃ found, datacenter.host? host = some found ∧
        workload.id ∉ found.scheduler.identities
  | .housekeeping => True
  | .deliver message => ∃ route, datacenter.route? message.destVertex = some route

/-- The five ways in which an event is handled. -/
inductive Handled (datacenter : Datacenter) (network : Network) :
    Event → Reaction Datacenter Unit → Prop where
  | skipped (soon : datacenter.comesTooSoon network.now = true)
      (counters : DatacenterCounters)
      (deliveries : counters.deliveries = datacenter.counters.deliveries) :
      Handled datacenter network .housekeeping
        { state := { datacenter with counters := counters }
          dispatches := []
          result := .ok () }
  | passed (due : datacenter.comesTooSoon network.now = false) :
      Handled datacenter network .housekeeping
        { state := (datacenter.pass network).1
          dispatches := (datacenter.pass network).2.1
          result := reportWorst (datacenter.pass network).2.2 () }
  | accepted {id : HostId} {host : Host} {workload : Workload} {estimate : Seconds}
      {next : Scheduler} (found : (datacenter.pass network).1.host? id = some host)
      (taken : host.scheduler.submit workload = .ok (estimate, next))
      (routes : Table Route) (counters : DatacenterCounters)
      (routed : routes = datacenter.routes.insertAll
        (workload.placement.vertices.keys.map fun vertex =>
          (vertex, { host := id, workload := workload.id })))
      (deliveries : counters.deliveries = datacenter.counters.deliveries) :
      Handled datacenter network (.submit id workload)
        { state :=
            { (datacenter.pass network).1.reschedule id host next with
              routes := routes, counters := counters }
          dispatches :=
            (datacenter.pass network).2.1 ++ datacenter.housekeepingAtEnd estimate
          result := reportWorst (datacenter.pass network).2.2 () }
  | delivered {message : Message} {route : Route} {host : Host} {next : Scheduler}
      (routed : datacenter.route? message.destVertex = some route)
      (found : datacenter.host? route.host = some host)
      (taken : Scheduler.Delivered host.scheduler route.workload message next)
      (counters : DatacenterCounters)
      (deliveries : counters.deliveries = datacenter.counters.deliveries + 1) :
      Handled datacenter network (.deliver message)
        { state := { datacenter.reschedule route.host host next with counters := counters }
          dispatches := []
          result := .ok () }
  | refused {message : Message} {route : Route} {host : Host}
      (routed : datacenter.route? message.destVertex = some route)
      (found : datacenter.host? route.host = some host)
      (reclaimed : route.workload ∈ host.scheduler.reclaimed) :
      Handled datacenter network (.deliver message)
        { state := datacenter
          dispatches := []
          result := .error (.workloadReclaimed route.workload) }

section Handling

variable {datacenter : Datacenter} {network : Network} {now : Seconds}

theorem handled_housekeeping :
    datacenter.Handled network .housekeeping (datacenter.handle network .housekeeping) := by
  rw [handle, housekeeping]
  split
  · rename_i soon
    exact .skipped soon _ rfl
  · rename_i due
    exact .passed (by simpa using due)

theorem accept_eq {id : HostId} {host : Host} (named : host.id = id) (next : Scheduler)
    (workload : Workload) :
    datacenter.accept host next workload =
      { datacenter.reschedule id host next with
        routes := datacenter.routes.insertAll
          (workload.placement.vertices.keys.map fun vertex =>
            (vertex, { host := id, workload := workload.id }))
        counters :=
          { datacenter.counters with
            submissions := datacenter.counters.submissions + 1 } } := by
  subst named
  rfl

theorem Lawful.handled_submit (lawful : datacenter.Lawful now) {id : HostId} {host : Host}
    {workload : Workload} (found : datacenter.host? id = some host)
    (unknown : workload.id ∉ host.scheduler.identities) :
    datacenter.Handled network (.submit id workload)
      (datacenter.handle network (.submit id workload)) := by
  have formed := (lawful.hosts id host found).formed
  have named : (host.ticked network network.now).id = id := lawful.named id host found
  have new : workload.id ∉ (host.ticked network network.now).scheduler.identities :=
    fun known => unknown ((Host.ticked_identities formed network.now).mem_iff.1 known)
  have taken := Scheduler.submit_of_not_mem new
  have handled : datacenter.handle network (.submit id workload) =
      { state :=
          ((datacenter.pass network).1.accept (host.ticked network network.now)
            { (host.ticked network network.now).scheduler with
              active := (host.ticked network network.now).scheduler.active ++ [workload] }
            workload).arm (datacenter.housekeepingAtEnd workload.duration).length
        dispatches :=
          (datacenter.pass network).2.1 ++ datacenter.housekeepingAtEnd workload.duration
        result := reportWorst (datacenter.pass network).2.2 () } := by
    rw [handle, submit]
    simp only [host?_pass found, taken]
    rfl
  rw [handled, accept_eq named]
  let counters : DatacenterCounters :=
    { (datacenter.pass network).1.counters with
      submissions := (datacenter.pass network).1.counters.submissions + 1
      armed := (datacenter.pass network).1.counters.armed +
        (datacenter.housekeepingAtEnd workload.duration).length }
  exact .accepted (host?_pass found) taken _ counters rfl rfl

theorem Lawful.handled_deliver (lawful : datacenter.Lawful now) {message : Message}
    {route : Route} (routed : datacenter.route? message.destVertex = some route) :
    datacenter.Handled network (.deliver message)
      (datacenter.handle network (.deliver message)) := by
  obtain ⟨host, found, serves⟩ := lawful.routes _ route routed
  have formed := (lawful.hosts _ host found).formed
  rcases serves with reclaimed | ⟨workload, member, named, -⟩
  · have refused := Scheduler.deliver_of_reclaimed message reclaimed
    have handled : datacenter.handle network (.deliver message) =
        { state := datacenter, dispatches := []
          result := .error (.workloadReclaimed route.workload) } := by
      rw [handle, deliver]
      simp only [routed, found, refused]
      rfl
    rw [handled]
    exact .refused routed found reclaimed
  · have here : route.workload ∈ host.scheduler.workloads.map Workload.id :=
      named ▸ List.mem_map_of_mem member
    obtain ⟨next, taken, delivered⟩ := formed.deliver_of_mem message here
    let counters := datacenter.counters
    have handled : datacenter.handle network (.deliver message) =
        { state :=
            { datacenter.reschedule route.host host next with
              counters := { counters with deliveries := counters.deliveries + 1 } }
          dispatches := []
          result := .ok () } := by
      rw [handle, deliver]
      simp only [routed, found, taken]
      rfl
    rw [handled]
    exact .delivered routed found delivered _ rfl

theorem Lawful.handled (lawful : datacenter.Lawful now) {event : Event}
    (expected : datacenter.Expects event) :
    datacenter.Handled network event (datacenter.handle network event) := by
  cases event with
  | submit id workload =>
      obtain ⟨-, host, found, unknown⟩ := expected
      exact lawful.handled_submit found unknown
  | housekeeping => exact handled_housekeeping
  | deliver message =>
      obtain ⟨route, routed⟩ := expected
      exact lawful.handled_deliver routed

end Handling

/-! ## What every way of handling keeps -/

section Kept

variable {datacenter : Datacenter} {network : Network} {now : Seconds}

theorem Lawful.roster_pass (lawful : datacenter.Lawful now) :
    (datacenter.pass network).1.roster = datacenter.roster := by
  refine total_pass_of_eq fun id host found => Multiset.coe_eq_coe.2 ?_
  exact (Host.ticked_identities (lawful.hosts id host found).formed network.now).map _

theorem reclaimed_pass : (datacenter.pass network).1.reclaimed = datacenter.reclaimed :=
  total_pass_of_eq fun id host found => by
    simp [Host.ticked, Host.tick, Host.collected, Scheduler.takeCompleted]

theorem Lawful.settled_pass (lawful : datacenter.Lawful now) :
    (datacenter.pass network).1.settled =
      (datacenter.ending network : Multiset WorkloadId) + datacenter.settled := by
  rw [settled, total_pass, ending, Table.coe_flatMap_values, settled, total, ← Table.sum_add]
  apply Table.sum_congr
  intro id host found
  rw [Multiset.coe_add, Multiset.coe_eq_coe]
  exact Host.ticked_settled (lawful.hosts id host found) network.now

namespace Handled

variable {event : Event} {reaction : Reaction Datacenter Unit}
  (handled : datacenter.Handled network event reaction)
include handled

theorem layout : reaction.state.layout = datacenter.layout := by
  cases handled with
  | skipped | refused => rfl
  | passed => exact layout_pass
  | @accepted id host workload estimate next found taken =>
      have gap : next.gap = host.scheduler.gap := by
        obtain ⟨-, -, rfl⟩ := Scheduler.submit_eq_ok taken
        rfl
      change ((datacenter.pass network).1.reschedule id host next).layout = _
      rw [layout_reschedule found gap, layout_pass]
  | @delivered message route host next routed found taken =>
      exact layout_reschedule found taken.gap

theorem roster (lawful : datacenter.Lawful now) :
    reaction.state.roster = datacenter.roster + event.enlisted := by
  cases handled with
  | skipped | refused => exact (add_zero datacenter.roster).symm
  | passed => exact lawful.roster_pass.trans (add_zero datacenter.roster).symm
  | @accepted id host workload estimate next found taken =>
      change ((datacenter.pass network).1.reschedule id host next).roster = _
      rw [roster_reschedule_of_submit found (Scheduler.identities_submit taken),
        lawful.roster_pass]
      rfl
  | @delivered message route host next routed found taken =>
      change (datacenter.reschedule route.host host next).roster = _
      rw [roster_reschedule found (taken.identities ▸ List.Perm.refl _)]
      exact (add_zero datacenter.roster).symm

theorem reclaimed : reaction.state.reclaimed = datacenter.reclaimed := by
  cases handled with
  | skipped | refused => rfl
  | passed => exact reclaimed_pass
  | @accepted id host workload estimate next found taken =>
      have same : next.reclaimed = host.scheduler.reclaimed := by
        obtain ⟨-, -, rfl⟩ := Scheduler.submit_eq_ok taken
        rfl
      change ((datacenter.pass network).1.reschedule id host next).reclaimed = _
      rw [reclaimed_reschedule found same, reclaimed_pass]
  | @delivered message route host next routed found taken =>
      exact reclaimed_reschedule found taken.reclaimed

/-- Whatever ends while an event is handled is collected. -/
theorem settled (lawful : datacenter.Lawful now) (collected : datacenter.completed = []) :
    reaction.state.settled =
      (reaction.state.completed : Multiset WorkloadId) + datacenter.settled := by
  have ending : (datacenter.pass network).1.completed = datacenter.ending network := by
    rw [pass_completed, collected, List.nil_append]
  have nothing : datacenter.settled =
      (datacenter.completed : Multiset WorkloadId) + datacenter.settled := by
    rw [collected, Multiset.coe_nil, zero_add]
  cases handled with
  | skipped | refused => exact nothing
  | passed => rw [ending, lawful.settled_pass]
  | @accepted id host workload estimate next found taken =>
      have same : next.settled = host.scheduler.settled := by
        obtain ⟨-, -, rfl⟩ := Scheduler.submit_eq_ok taken
        rfl
      change ((datacenter.pass network).1.reschedule id host next).settled =
        ((datacenter.pass network).1.completed : Multiset WorkloadId) + _
      rw [settled_reschedule found (same ▸ List.Perm.refl _), ending, lawful.settled_pass]
  | @delivered message route host next routed found taken =>
      change (datacenter.reschedule route.host host next).settled = _
      rw [settled_reschedule found (taken.settled ▸ List.Perm.refl _)]
      exact nothing

theorem lawful (before : datacenter.Lawful now) (clock : network.now.IsInstant)
    (forward : now.rank ≤ network.now.rank) (expected : datacenter.Expects event) :
    reaction.state.Lawful network.now := by
  have later : datacenter.Lawful network.now := before.later forward
  have passed : (datacenter.pass network).1.Lawful network.now := before.pass clock
  cases handled with
  | skipped => exact ⟨later.named, later.hosts, later.routes⟩
  | passed => exact passed
  | @accepted id host workload estimate next found taken routes counters routed =>
      have rescheduled := passed.reschedule found
        ((passed.hosts id host found).submit expected.1 taken)
        fun vertex other serves => serves.submit taken
      refine ⟨rescheduled.named, rescheduled.hosts, fun vertex route leads => ?_⟩
      change routes.get? vertex = some route at leads
      rw [routed, Table.get?_insertAll] at leads
      split at leads
      · rename_i executed
        cases leads
        exact ⟨_, Table.get?_insert_self _ _ _,
          Host.serves_of_submit taken (Table.contains_iff.2 executed)⟩
      · exact rescheduled.routes vertex route leads
  | delivered routed found taken =>
      have rescheduled := later.reschedule found ((later.hosts _ _ found).deliver taken)
        fun vertex other serves => serves.deliver taken
      exact ⟨rescheduled.named, rescheduled.hosts, rescheduled.routes⟩
  | refused => exact later

/-- What is dispatched is housekeeping of the datacenter itself, or a message that goes
where its destination lives. -/
theorem dispatches :
    ∀ dispatch ∈ reaction.dispatches, dispatch.IsDelivery network.registry ∨
      dispatch.target = datacenter.id ∧ dispatch.event = .housekeeping := by
  obtain ⟨following, listed, -, own⟩ := datacenter.pass_dispatches network
  have passing : ∀ dispatch ∈ (datacenter.pass network).2.1,
      dispatch.IsDelivery network.registry ∨
        dispatch.target = datacenter.id ∧ dispatch.event = .housekeeping := by
    intro dispatch member
    rw [listed] at member
    rcases List.mem_append.1 member with sent | follows
    · exact .inl (sent_isDelivery dispatch sent)
    · exact .inr (own dispatch follows)
  cases handled with
  | skipped | delivered | refused => simp
  | passed => exact passing
  | accepted =>
      intro dispatch member
      rcases List.mem_append.1 member with early | atEnd
      · exact passing dispatch early
      · rw [housekeepingAtEnd] at atEnd
        split at atEnd
        · exact .inr (List.mem_singleton.1 atEnd ▸ ⟨rfl, rfl⟩)
        · cases atEnd

/-- The only faults are a destination that was never placed and a workload that was
reclaimed. -/
theorem fault (before : datacenter.Lawful now) (clock : network.now.IsInstant)
    (forward : now.rank ≤ network.now.rank) {fault : Fault}
    (failed : reaction.result = .error fault) :
    (∃ vertex, fault = .unresolvedDestination vertex) ∨
      ∃ workload ∈ datacenter.reclaimed, fault = .workloadReclaimed workload := by
  cases handled with
  | skipped | delivered => cases failed
  | passed | accepted =>
      exact .inl (before.pass_fault clock forward (mem_of_reportWorst failed))
  | @refused message route host routed found reclaimed =>
      cases failed
      exact .inr ⟨route.workload, mem_reclaimed found reclaimed, rfl⟩

theorem route?_isSome {vertex : VertexId}
    (routed : (datacenter.route? vertex).isSome) : (reaction.state.route? vertex).isSome := by
  cases handled with
  | skipped | passed | delivered | refused => exact routed
  | @accepted id host workload estimate next found taken routes counters extended =>
      change (routes.get? vertex).isSome
      rw [extended, Table.get?_insertAll]
      split
      · rfl
      · exact routed

end Handled

/-- A workload's vertices are routed once its submission is handled. -/
theorem Handled.route?_of_submit {id : HostId} {workload : Workload}
    {reaction : Reaction Datacenter Unit}
    (handled : datacenter.Handled network (.submit id workload) reaction)
    {vertex : VertexId} (executed : workload.placement.executes vertex = true) :
    (reaction.state.route? vertex).isSome := by
  cases handled with
  | @accepted id host workload estimate next found taken routes counters extended =>
      change (routes.get? vertex).isSome
      rw [extended, Table.get?_insertAll, if_pos (Table.contains_iff.1 executed)]
      rfl

end Kept

end Datacenter

end CoSimulation
