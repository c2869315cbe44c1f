import CoSimulation.Proofs.Deployment.History
import CoSimulation.Proofs.Deployment.Reclaiming
import Mathlib.Data.List.Pairwise

/-!
# Which workload a vertex belongs to

The broker rejects a workload whose vertices live on another host, not one that shares
them with a workload on its own.  So two accepted workloads may execute the same vertex,
but only on one host, and its messages go to the one accepted last.  Every accepted
workload gets the messages for all its vertices exactly if no two of them share one.
-/

namespace CoSimulation

/-- A workload that was accepted. -/
structure Acceptance where
  datacenter : DatacenterId
  host : HostId
  workload : Workload

namespace Acceptance

def executes (acceptance : Acceptance) (vertex : VertexId) : Bool :=
  acceptance.workload.placement.executes vertex

def route (acceptance : Acceptance) : Route :=
  { host := acceptance.host, workload := acceptance.workload.id }

def bound (acceptance : Acceptance) : WorkloadId × HostId :=
  (acceptance.workload.id, acceptance.host)

/-- The registry has the workload's vertices on its host, and the host in its datacenter. -/
structure Housed (registry : Registry) (acceptance : Acceptance) : Prop where
  owned : registry.datacenterOf? acceptance.host = some acceptance.datacenter
  located : ∀ vertex, acceptance.executes vertex = true →
    registry.hostOf? vertex = some acceptance.host

/-- The workloads execute different vertices. -/
def Apart (left right : Acceptance) : Prop :=
  ∀ vertex, ¬ (left.executes vertex = true ∧ right.executes vertex = true)

instance : Std.Symm Apart where
  symm _ _ apart vertex both := apart vertex ⟨both.2, both.1⟩

end Acceptance

/-- The workloads that were accepted after passes. -/
def acceptances (made : List Pass) : List Acceptance :=
  made.filterMap fun pass =>
    pass.accepted.map fun (host, workload) =>
      { datacenter := pass.datacenter, host := host, workload := workload }

/-- The workload that an event brings, as it is accepted. -/
def Event.acceptances (target : DatacenterId) : Event → List Acceptance
  | submit host workload => [{ datacenter := target, host := host, workload := workload }]
  | housekeeping | deliver _ => []

/-- Where a datacenter sends the messages for a vertex: to the last of the workloads
accepted there that execute it. -/
def routeAfter (datacenter : DatacenterId) (vertex : VertexId) (accepted : List Acceptance) :
    Option Route :=
  (accepted.filter fun acceptance =>
    acceptance.datacenter = datacenter ∧ acceptance.executes vertex).getLast?.map
      Acceptance.route

theorem acceptances_append (early late : List Pass) :
    acceptances (early ++ late) = acceptances early ++ acceptances late :=
  List.filterMap_append

theorem routeAfter_concat (datacenter : DatacenterId) (vertex : VertexId)
    (earlier : List Acceptance) (acceptance : Acceptance) :
    routeAfter datacenter vertex (earlier ++ [acceptance]) =
      if acceptance.datacenter = datacenter ∧ acceptance.executes vertex then
        some acceptance.route
      else routeAfter datacenter vertex earlier := by
  rw [routeAfter, List.filter_append]
  split
  · rename_i here
    simp [here]
  · rename_i elsewhere
    simp [elsewhere, routeAfter]

namespace Datacenter.Handled

variable {datacenter : Datacenter} {network : Network} {event : Event}
  {reaction : Reaction Datacenter Unit}
  (handled : datacenter.Handled network event reaction)
include handled

/-- Every submission that is handled is accepted. -/
theorem acceptances {now : Seconds} (lawful : datacenter.Lawful now) (target : DatacenterId) :
    CoSimulation.acceptances (datacenter.passFor
      { time := network.now, target := target, event := event }).toList =
        event.acceptances target := by
  cases handled with
  | skipped soon =>
      simp only [passFor, soon, if_true]
      rfl
  | passed due =>
      simp only [passFor, due]
      rfl
  | accepted found taken =>
      simp only [passFor, lawful.accepts_of_submit found taken, if_true]
      rfl
  | delivered | refused => rfl

/-- The vertices of an accepted workload are routed to it, and no others change. -/
theorem route?_eq (target : DatacenterId) (vertex : VertexId) (earlier : List Acceptance)
    (known : datacenter.route? vertex = routeAfter target vertex earlier) :
    reaction.state.route? vertex =
      routeAfter target vertex (earlier ++ event.acceptances target) := by
  cases handled with
  | skipped | passed | delivered | refused =>
      rw [Event.acceptances, List.append_nil]
      exact known
  | @accepted id host workload estimate next found taken routes counters routed =>
      change routes.get? vertex = _
      rw [routed, Table.get?_insertAll, Event.acceptances, routeAfter_concat, ← known]
      have listed : vertex ∈ workload.placement.vertices.keys ↔
          workload.placement.executes vertex = true := Table.contains_iff.symm
      simp only [listed, true_and]
      rfl

end Datacenter.Handled

namespace Simulation

/-- Where the messages for a vertex go that reach a datacenter. -/
def route? (simulation : Simulation) (datacenter : DatacenterId) (vertex : VertexId) :
    Option Route :=
  (simulation.datacenters.get? datacenter).bind fun found => found.route? vertex

/-- Every accepted workload gets the messages for all its vertices. -/
def OwnsInput (simulation : Simulation) (accepted : List Acceptance) : Prop :=
  ∀ acceptance ∈ accepted, ∀ vertex, acceptance.executes vertex = true →
    simulation.route? acceptance.datacenter vertex = some acceptance.route

end Simulation

/-! ## Vertices stay on their hosts -/

/-- The vertices of all workloads under way are on the hosts these are to run on. -/
def Registry.Awaits (registry : Registry) (queue : EventQueue Event) : Prop :=
  ∀ entry ∈ queue.pending, ∀ acceptance ∈ entry.event.acceptances entry.target,
    acceptance.Housed registry

theorem Registry.Awaits.dispatch {registry : Registry} {queue : EventQueue Event}
    (awaits : registry.Awaits queue) {dispatches : List Dispatch}
    (brought : ∀ dispatch ∈ dispatches,
      ∀ acceptance ∈ dispatch.event.acceptances dispatch.target, acceptance.Housed registry) :
    registry.Awaits (queue.dispatch dispatches) := by
  intro entry waits acceptance brings
  rcases EventQueue.mem_dispatch.1 waits with ⟨dispatch, asked, rfl⟩ | waited
  · exact brought dispatch asked acceptance brings
  · exact awaits entry waited acceptance brings

namespace Deployment

theorem Step.housed {before after : Deployment} {fault : Option Fault}
    (step : Step before fault after) {acceptance : Acceptance}
    (housed : acceptance.Housed before.broker.registry) :
    acceptance.Housed after.broker.registry := by
  cases step with
  | queued | gathered | started | ran => exact housed
  | considered issued considered =>
      constructor
      · exact (considered.datacenterOf? _).trans housed.owned
      · exact fun vertex executes => considered.hostOf? (housed.located vertex executes)
  | reclaimed datacenter workload =>
      rw [reclaim]
      split
      · exact housed
      · split <;> exact housed

theorem housed_of_considered {owns : DatacenterId → HostId → Bool} {broker next : Broker}
    {workload : Workload} {dispatches : List Dispatch}
    (considered : Broker.Considered owns broker workload next dispatches) :
    ∀ dispatch ∈ dispatches, ∀ acceptance ∈ dispatch.event.acceptances dispatch.target,
      acceptance.Housed next.registry := by
  intro dispatch asked acceptance brings
  have owner := considered.datacenterOf?
  cases considered with
  | rejected | postponed => cases asked
  | @accepted nextHost host datacenter registry new known owned assigned =>
      rw [List.mem_singleton.1 asked] at brings
      rw [List.mem_singleton.1 brings]
      constructor
      · exact (owner host).trans known
      · intro vertex executes
        change registry.hostOf? vertex = some host
        rw [(Registry.assignAll_eq_ok assigned).2 vertex,
          if_pos (Table.contains_iff.1 executes)]

theorem Consistent.awaits_step {before after : Deployment} {fault : Option Fault}
    (consistent : before.Consistent) (step : Step before fault after)
    (awaits : before.broker.registry.Awaits before.simulation.queue) :
    after.broker.registry.Awaits after.simulation.queue := by
  have kept : after.broker.registry.Awaits before.simulation.queue :=
    fun entry waits acceptance brings => step.housed (awaits entry waits acceptance brings)
  cases step with
  | queued | gathered => exact kept
  | considered issued considered => exact kept.dispatch (housed_of_considered considered)
  | started =>
      rw [Simulation.start]
      split
      · exact kept
      · apply kept.dispatch
        intro dispatch asked acceptance brings
        obtain ⟨id, -, rfl⟩ := List.mem_map.1 asked
        cases brings
  | ran running stepped =>
      obtain ⟨entry, rest, datacenter, reaction, popped, -, found, handled, absorbed⟩ :=
        consistent.step? stepped
      rw [absorbed.queue]
      have later : before.broker.registry.Awaits rest := by
        intro other waits
        apply awaits other
        rw [(EventQueue.pop?_eq_some.1 popped).1]
        exact List.mem_cons_of_mem _ waits
      apply later.dispatch
      intro dispatch asked acceptance brings
      rcases handled.dispatches dispatch asked with ⟨message, -, carried, -⟩ | ⟨-, tick⟩
      · rw [carried] at brings
        cases brings
      · rw [tick] at brings
        cases brings
  | reclaimed id workload =>
      rcases consistent.reclaim_cases id workload with
        same | ⟨datacenter, owner, host, returned, scheduler, found, present, handed, same⟩
      · rw [same] at kept ⊢
        exact kept
      · rw [same] at kept ⊢
        exact kept

/-! ## Routes follow the acceptances -/

/-- What the registry, the routes and the hosts know of the accepted workloads. -/
structure Routed (made : List Pass) (deployment : Deployment) : Prop where
  awaits : deployment.broker.registry.Awaits deployment.simulation.queue
  housed : ∀ acceptance ∈ acceptances made, acceptance.Housed deployment.broker.registry
  routes : ∀ id vertex,
    deployment.simulation.route? id vertex = routeAfter id vertex (acceptances made)
  roster : (((acceptances made).map Acceptance.bound : List (WorkloadId × HostId)) :
      Multiset (WorkloadId × HostId)) =
    deployment.simulation.datacenters.sum fun _ datacenter => datacenter.roster

theorem Routed.ran {earlier : List Pass} {deployment : Deployment}
    (routed : Routed earlier deployment) (consistent : deployment.Consistent)
    (running : deployment.simulation.started = true) {limit : Seconds}
    {fault : Option Fault} {next : Simulation}
    (stepped : deployment.simulation.step? deployment.broker.registry limit =
      some (fault, next)) :
    Routed (earlier ++ deployment.simulation.nextPass?.toList)
      { deployment with simulation := next } := by
  obtain ⟨entry, rest, datacenter, reaction, popped, -, found, handled, absorbed⟩ :=
    consistent.step? stepped
  have first : entry ∈ deployment.simulation.queue.pending :=
    (EventQueue.pop?_eq_some.1 popped).1 ▸ List.mem_cons_self
  have lawful := consistent.lawful _ _ found
  have now : acceptances (earlier ++ deployment.simulation.nextPass?.toList) =
      acceptances earlier ++ entry.event.acceptances entry.target := by
    rw [acceptances_append, Simulation.nextPass?_eq popped found]
    exact congrArg _ (handled.acceptances lawful entry.target)
  constructor
  · exact consistent.awaits_step (.ran running stepped) routed.awaits
  · intro acceptance member
    rw [now] at member
    rcases List.mem_append.1 member with old | new
    · exact routed.housed acceptance old
    · exact routed.awaits entry first acceptance new
  · intro id vertex
    have before := routed.routes id vertex
    rw [now]
    rw [Simulation.route?] at before ⊢
    rw [absorbed.datacenters, Table.get?_insert]
    split
    · rename_i same
      rw [same, found] at before
      rw [same]
      exact handled.route?_eq entry.target vertex _ before
    · rename_i different
      have elsewhere : routeAfter id vertex (acceptances earlier ++
          entry.event.acceptances entry.target) = routeAfter id vertex (acceptances earlier) := by
        cases entry.event with
        | submit host workload =>
            rw [Event.acceptances, routeAfter_concat, if_neg fun both => different both.1.symm]
        | housekeeping | deliver message => rw [Event.acceptances, List.append_nil]
      rw [elsewhere]
      exact before
  · have exchanged : (next.datacenters.sum fun _ datacenter => datacenter.roster) +
        datacenter.roster =
          (deployment.simulation.datacenters.sum fun _ datacenter => datacenter.roster) +
            reaction.state.roster := absorbed.sum_datacenters found
    rw [handled.roster lawful, add_comm datacenter.roster, ← add_assoc] at exchanged
    have enlisted : (((entry.event.acceptances entry.target).map Acceptance.bound :
        List (WorkloadId × HostId)) : Multiset (WorkloadId × HostId)) = entry.event.enlisted := by
      cases entry.event <;> rfl
    rw [now, List.map_append, ← Multiset.coe_add, routed.roster, enlisted]
    exact (add_right_cancel exchanged).symm

theorem Routed.recorded {earlier made : List Pass} {before after : Deployment}
    (routed : Routed earlier before) (consistent : before.Consistent)
    (recorded : Recorded before made after) : Routed (earlier ++ made) after := by
  obtain ⟨fault, step⟩ := recorded.step
  have awaits := consistent.awaits_step step routed.awaits
  have housed : ∀ acceptance ∈ acceptances earlier,
      acceptance.Housed after.broker.registry :=
    fun acceptance member => step.housed (routed.housed acceptance member)
  cases recorded with
  | quiet _ same =>
      rw [List.append_nil]
      refine ⟨awaits, housed, fun id vertex => ?_, ?_⟩
      · rw [Simulation.route?, same]
        exact routed.routes id vertex
      · rw [same]
        exact routed.roster
  | ran running stepped => exact routed.ran consistent running stepped
  | reclaimed id workload =>
      rw [List.append_nil]
      rcases consistent.reclaim_cases id workload with
        same | ⟨datacenter, owner, host, returned, scheduler, found, present, handed, same⟩
      · rw [same]
        exact routed
      · refine ⟨awaits, housed, fun other vertex => ?_, ?_⟩
        · have before := routed.routes other vertex
          rw [same, ← before, Simulation.route?, Simulation.route?, Table.get?_insert]
          split
          · rename_i equal
            rw [equal, found]
            rfl
          · rfl
        · have exchanged : ((before.simulation.datacenters.insert id
                (datacenter.reschedule owner host scheduler)).sum
                  fun _ datacenter => datacenter.roster) + datacenter.roster =
              (before.simulation.datacenters.sum fun _ datacenter => datacenter.roster) +
                (datacenter.reschedule owner host scheduler).roster :=
            Table.sum_insert_of_present found
          rw [Datacenter.roster_reschedule present handed.identities] at exchanged
          rw [same, routed.roster]
          exact (add_right_cancel exchanged).symm

theorem Assembled.routed_after {configuration : Configuration} {deployment : Deployment}
    (assembled : Assembled configuration deployment) (operations : List Operation) :
    Routed (deployment.passes operations) (deployment.after operations) := by
  refine assembled.history_induction Routed ?_
    (fun consistent recorded routed => routed.recorded consistent recorded) operations
  constructor
  · rw [assembled.queue]
    exact fun entry waits => absurd waits List.not_mem_nil
  · exact fun acceptance member => nomatch member
  · intro id vertex
    rw [Simulation.route?]
    cases found : deployment.simulation.datacenters.get? id with
    | none => rfl
    | some datacenter =>
        obtain ⟨settings, -, -, rfl⟩ := assembled.of_get?_datacenter found
        rw [DatacenterSettings.build_eq]
        rfl
  · exact (Table.sum_eq_zero fun _ _ found => assembled.total_eq_zero (fun _ _ => rfl) found).symm

namespace Routed

variable {made : List Pass} {deployment : Deployment} (routed : Routed made deployment)
include routed

/-- A workload is accepted once. -/
theorem distinct (consistent : deployment.Consistent) :
    (acceptances made).Pairwise fun left right => left.workload.id ≠ right.workload.id := by
  have accepted : ((acceptances made).map Acceptance.bound : Multiset (WorkloadId × HostId)) ≤
      deployment.broker.submitted := by
    rw [routed.roster, ← consistent.roster, Simulation.roster]
    exact Multiset.le_add_left _ _
  have ids := Multiset.map_le_map accepted (f := Prod.fst)
  rw [Multiset.map_coe, Multiset.map_coe, List.map_map] at ids
  have nodup := Multiset.nodup_of_le ids (Multiset.coe_nodup.2 consistent.distinct)
  exact List.pairwise_map.1 (Multiset.coe_nodup.1 nodup)

/-- Workloads that share a vertex are on one host. -/
theorem same_host {left right : Acceptance} (first : left ∈ acceptances made)
    (second : right ∈ acceptances made) {vertex : VertexId}
    (onLeft : left.executes vertex = true) (onRight : right.executes vertex = true) :
    left.datacenter = right.datacenter ∧ left.host = right.host := by
  have here := routed.housed left first
  have there := routed.housed right second
  have host : left.host = right.host :=
    Option.some.inj ((here.located vertex onLeft).symm.trans (there.located vertex onRight))
  refine ⟨Option.some.inj ?_, host⟩
  rw [← here.owned, ← there.owned, host]

/-- The messages for a vertex go to a workload that executes it, on the same host. -/
theorem route?_of_executes {acceptance : Acceptance} (accepted : acceptance ∈ acceptances made)
    {vertex : VertexId} (executes : acceptance.executes vertex = true) :
    ∃ last ∈ acceptances made, last.executes vertex = true ∧
      deployment.simulation.route? acceptance.datacenter vertex = some last.route := by
  let here : List Acceptance := (acceptances made).filter fun other =>
    other.datacenter = acceptance.datacenter ∧ other.executes vertex
  have listed : acceptance ∈ here := List.mem_filter.2 ⟨accepted, by simp [executes]⟩
  cases final : here.getLast? with
  | none =>
      rw [List.getLast?_eq_none_iff.1 final] at listed
      cases listed
  | some last =>
      obtain ⟨member, matched⟩ := List.mem_filter.1 (List.mem_of_getLast? final)
      have executed : last.executes vertex = true := by
        simp only [Bool.decide_and, Bool.and_eq_true, decide_eq_true_eq] at matched
        exact matched.2
      refine ⟨last, member, executed, ?_⟩
      rw [routed.routes, routeAfter]
      exact congrArg (Option.map Acceptance.route) final

theorem ownsInput_iff (consistent : deployment.Consistent) :
    deployment.simulation.OwnsInput (acceptances made) ↔
      (acceptances made).Pairwise Acceptance.Apart := by
  constructor
  · intro owns
    apply (routed.distinct consistent).imp_of_mem
    intro left right first second different vertex both
    have onLeft := owns left first vertex both.1
    have onRight := owns right second vertex both.2
    rw [(routed.same_host first second both.1 both.2).1, onRight] at onLeft
    exact different (congrArg Route.workload (Option.some.inj onLeft)).symm
  · intro apart acceptance accepted vertex executes
    obtain ⟨last, member, executed, leads⟩ := routed.route?_of_executes accepted executes
    have same : last = acceptance := by
      by_contra different
      exact apart.forall member accepted different vertex ⟨executed, executes⟩
    rw [leads, same]

end Routed

/-- The messages for a vertex go to the last workload accepted at their datacenter that
executes it, on the host of every workload that does.  Workloads that share a vertex are on
one host, since the broker rejects those that would not be; and every accepted workload gets
the messages for all its vertices exactly if no two of them share one. -/
theorem route_of_last_accepted {configuration : Configuration} {deployment : Deployment}
    (built : configuration.build = .ok deployment) (operations : List Operation) :
    let reached := deployment.after operations
    let accepted := acceptances (deployment.passes operations)
    (∀ id vertex, reached.simulation.route? id vertex = routeAfter id vertex accepted) ∧
    (∀ acceptance ∈ accepted, ∀ vertex, acceptance.executes vertex = true →
      ∃ workload, reached.simulation.route? acceptance.datacenter vertex =
        some { host := acceptance.host, workload := workload }) ∧
    (∀ left ∈ accepted, ∀ right ∈ accepted, ∀ vertex,
      left.executes vertex = true → right.executes vertex = true →
        left.datacenter = right.datacenter ∧ left.host = right.host) ∧
    (reached.simulation.OwnsInput accepted ↔ accepted.Pairwise Acceptance.Apart) := by
  have assembled := assembled_of_build built
  have routed := assembled.routed_after operations
  refine ⟨routed.routes, fun acceptance accepted vertex executes => ?_,
    fun left first right second vertex onLeft onRight => ?_,
    routed.ownsInput_iff (assembled.consistent_after operations)⟩
  · obtain ⟨last, member, executed, leads⟩ := routed.route?_of_executes accepted executes
    have host := (routed.same_host accepted member executes executed).2
    refine ⟨last.workload.id, ?_⟩
    rw [leads, host]
    rfl
  · exact routed.same_host first second onLeft onRight

/-- Two workloads that execute one vertex on the same host, and a third that executes it on
another. -/
def sharedOperations : List Operation :=
  [.queue 7 ((Placement.unpinned [5] 4).onHost 1) 0 (Engine.relay []),
    .queue 8 ((Placement.unpinned [5, 6] 4).onHost 1) 0 (Engine.relay []),
    .queue 9 ((Placement.unpinned [5] 4).onHost 2) 0 (Engine.relay []), .submit, .run 1 20]

theorem route_of_last_accepted_shared :
    let reached := Configuration.paired.assemble.after sharedOperations
    let accepted := acceptances (Configuration.paired.assemble.passes sharedOperations)
    Configuration.paired.build = .ok Configuration.paired.assemble ∧
      accepted.map Acceptance.bound = [(7, 1), (8, 1)] ∧
      reached.broker.rejected = [(9, .vertexAlreadyPlaced 5 2 1)] ∧
      reached.simulation.route? 1 5 = some { host := 1, workload := 8 } := by
  have built := Configuration.build_of_valid Configuration.paired_valid
  have ran :
      let accepted := acceptances (Configuration.paired.assemble.passes sharedOperations)
      accepted.map Acceptance.bound = [(7, 1), (8, 1)] ∧
        (Configuration.paired.assemble.after sharedOperations).broker.rejected =
          [(9, .vertexAlreadyPlaced 5 2 1)] ∧
        routeAfter 1 5 accepted = some { host := 1, workload := 8 } := by
    decide +kernel
  obtain ⟨bound, rejected, last⟩ := ran
  refine ⟨built, bound, rejected, ?_⟩
  rw [(route_of_last_accepted built sharedOperations).1]
  exact last

/-- The earlier of the two does not get the messages for its vertex. -/
theorem not_ownsInput_shared :
    Configuration.paired.build = .ok Configuration.paired.assemble ∧
      ¬ (Configuration.paired.assemble.after sharedOperations).simulation.OwnsInput
        (acceptances (Configuration.paired.assemble.passes sharedOperations)) := by
  refine ⟨Configuration.build_of_valid Configuration.paired_valid, fun owns => ?_⟩
  have listed :
      (acceptances (Configuration.paired.assemble.passes sharedOperations)).map
        (fun acceptance =>
          (acceptance.datacenter, acceptance.workload.id, acceptance.executes 5)) =
            [(1, 7, true), (1, 8, true)] := by
    decide +kernel
  have first := listed ▸ List.mem_cons_self
  obtain ⟨acceptance, member, same⟩ := List.mem_map.1 first
  obtain ⟨here, rest⟩ := Prod.mk.inj same
  obtain ⟨named, executes⟩ := Prod.mk.inj rest
  have leads := owns acceptance member 5 executes
  have taken : (Configuration.paired.assemble.after sharedOperations).simulation.route? 1 5 =
      some { host := 1, workload := 8 } := by
    decide +kernel
  rw [here, taken] at leads
  have other := congrArg Route.workload (Option.some.inj leads)
  rw [Acceptance.route, named] at other
  cases other

end Deployment

end CoSimulation
