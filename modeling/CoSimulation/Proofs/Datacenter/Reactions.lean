import CoSimulation.Proofs.Datacenter.Handling

/-!
# Reactions to any event

Whatever a datacenter is handed, it does one of five things: it drops housekeeping, it
makes a pass, it makes a pass and takes a workload in, it queues a message, or it leaves
everything as it is.  So a property of hosts is kept if ticks, submissions and deliveries
keep it, and nothing is dispatched but what the hosts send and the datacenter's own
housekeeping.
-/

namespace CoSimulation.Datacenter

variable {datacenter after : Datacenter} {network : Network} {event : Event}
  {dispatches : List Dispatch}

inductive Reacts (datacenter : Datacenter) (network : Network) :
    Event → Datacenter → List Dispatch → Prop where
  | skipped (counters : DatacenterCounters) :
      Reacts datacenter network .housekeeping { datacenter with counters := counters } []
  | passed (event : Event) (noDelivery : ∀ message, event ≠ .deliver message) :
      Reacts datacenter network event (datacenter.pass network).1 (datacenter.pass network).2.1
  | accepted {id : HostId} {host : Host} {workload : Workload} {estimate : Seconds}
      {next : Scheduler} (found : (datacenter.pass network).1.host? id = some host)
      (taken : host.scheduler.submit workload = .ok (estimate, next))
      (routes : Table Route) (counters : DatacenterCounters) :
      Reacts datacenter network (.submit id workload)
        { (datacenter.pass network).1.reschedule host.id host next with
          routes := routes, counters := counters }
        ((datacenter.pass network).2.1 ++ datacenter.housekeepingAtEnd estimate)
  | delivered {message : Message} {route : Route} {host : Host} {next : Scheduler}
      (routed : datacenter.route? message.destVertex = some route)
      (found : datacenter.host? route.host = some host)
      (taken : host.scheduler.deliver route.workload message = .ok next)
      (counters : DatacenterCounters) :
      Reacts datacenter network (.deliver message)
        { datacenter.reschedule route.host host next with counters := counters } []
  | refused (message : Message) : Reacts datacenter network (.deliver message) datacenter []

theorem reacts_submit (datacenter : Datacenter) (network : Network) (id : HostId)
    (workload : Workload) :
    datacenter.Reacts network (.submit id workload)
      (datacenter.handle network (.submit id workload)).state
      (datacenter.handle network (.submit id workload)).dispatches := by
  rw [handle, submit]
  cases found : (datacenter.pass network).1.host? id with
  | none =>
      simp only [found]
      exact .passed _ (by simp)
  | some host =>
      simp only [found]
      cases taken : host.scheduler.submit workload with
      | error fault => exact .passed _ (by simp)
      | ok result => exact .accepted found taken _ _

theorem reacts_deliver (datacenter : Datacenter) (network : Network) (message : Message) :
    datacenter.Reacts network (.deliver message)
      (datacenter.handle network (.deliver message)).state
      (datacenter.handle network (.deliver message)).dispatches := by
  rw [handle, deliver]
  cases routed : datacenter.route? message.destVertex with
  | none => exact .refused message
  | some route =>
      cases found : datacenter.host? route.host with
      | none =>
          simp only [found]
          exact .refused message
      | some host =>
          simp only [found]
          cases taken : host.scheduler.deliver route.workload message with
          | error fault => exact .refused message
          | ok next => exact .delivered routed found taken _

theorem reacts (datacenter : Datacenter) (network : Network) (event : Event) :
    datacenter.Reacts network event (datacenter.handle network event).state
      (datacenter.handle network event).dispatches := by
  cases event with
  | submit id workload => exact reacts_submit datacenter network id workload
  | deliver message => exact reacts_deliver datacenter network message
  | housekeeping =>
      rw [handle, housekeeping]
      split
      · exact .skipped _
      · exact .passed _ (by simp)

namespace Reacts

theorem id_eq (reacts : datacenter.Reacts network event after dispatches) :
    after.id = datacenter.id := by
  cases reacts <;> rfl

/-- A property that ticks, submissions and deliveries keep is kept by all hosts. -/
theorem forall_host (Good : Host → Prop)
    (reacts : datacenter.Reacts network event after dispatches)
    (ticks : ∀ host, Good host → Good (host.ticked network network.now))
    (submits : ∀ id workload, event = .submit id workload → ∀ host estimate next, Good host →
      host.scheduler.submit workload = .ok (estimate, next) →
        Good { host with scheduler := next })
    (delivers : ∀ message, event = .deliver message → ∀ host workload next, Good host →
      host.scheduler.deliver workload message = .ok next → Good { host with scheduler := next })
    (before : ∀ id host, datacenter.host? id = some host → Good host) :
    ∀ id host, after.host? id = some host → Good host := by
  have passed : ∀ id host, (datacenter.pass network).1.host? id = some host → Good host := by
    intro id host found
    obtain ⟨earlier, present, rfl⟩ := of_host?_pass found
    exact ticks earlier (before id earlier present)
  have rescheduled {changed : Datacenter} {place : HostId} {host : Host} {next : Scheduler}
      (others : ∀ id host, changed.host? id = some host → Good host)
      (here : Good { host with scheduler := next }) :
      ∀ id other, (changed.reschedule place host next).host? id = some other → Good other := by
    intro id other found
    rw [host?_reschedule] at found
    by_cases same : id = place
    · rw [if_pos same, Option.some.injEq] at found
      exact found ▸ here
    · rw [if_neg same] at found
      exact others id other found
  cases reacts with
  | skipped | refused => exact before
  | passed => exact passed
  | accepted found taken =>
      exact rescheduled passed (submits _ _ rfl _ _ _ (passed _ _ found) taken)
  | delivered routed found taken =>
      exact rescheduled before (delivers _ rfl _ _ _ (before _ _ found) taken)

theorem named (reacts : datacenter.Reacts network event after dispatches)
    (before : ∀ id host, datacenter.host? id = some host → host.id = id) :
    ∀ id host, after.host? id = some host → host.id = id := by
  have passed : ∀ id host, (datacenter.pass network).1.host? id = some host → host.id = id := by
    intro id host found
    obtain ⟨earlier, present, rfl⟩ := of_host?_pass found
    exact before id earlier present
  cases reacts with
  | skipped | refused => exact before
  | passed => exact passed
  | @accepted _ host _ _ next found taken routes counters =>
      intro id other present
      rcases Table.of_get?_insert present with ⟨same, rfl⟩ | ⟨-, old⟩
      · exact same.symm
      · exact passed id other old
  | @delivered _ route host next routed found taken =>
      intro id other present
      rcases Table.of_get?_insert present with ⟨same, rfl⟩ | ⟨-, old⟩
      · exact (before route.host host found).trans same.symm
      · exact before id other old

/-- What is dispatched was sent by a host, or it is the datacenter's own housekeeping. -/
theorem mem_dispatches (reacts : datacenter.Reacts network event after dispatches)
    {dispatch : Dispatch} (member : dispatch ∈ dispatches) :
    dispatch ∈ datacenter.sent network ∨
      dispatch.target = datacenter.id ∧ dispatch.event = .housekeeping := by
  obtain ⟨following, listed, -, own⟩ := datacenter.pass_dispatches network
  have passing (early : dispatch ∈ (datacenter.pass network).2.1) :
      dispatch ∈ datacenter.sent network ∨
        dispatch.target = datacenter.id ∧ dispatch.event = .housekeeping := by
    rw [listed] at early
    exact (List.mem_append.1 early).imp_right (own dispatch)
  cases reacts with
  | skipped | delivered | refused => cases member
  | passed => exact passing member
  | accepted =>
      rcases List.mem_append.1 member with early | atEnd
      · exact passing early
      · rw [housekeepingAtEnd] at atEnd
        split at atEnd
        · exact .inr (List.mem_singleton.1 atEnd ▸ ⟨rfl, rfl⟩)
        · cases atEnd

end Reacts

end CoSimulation.Datacenter
