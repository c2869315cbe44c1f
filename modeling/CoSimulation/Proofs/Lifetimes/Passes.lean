import CoSimulation.Proofs.Deployment.History
import CoSimulation.Proofs.Deployment.Reclaiming
import CoSimulation.Proofs.Lifetimes.Slices

/-!
# Time slices tile the life of a workload

A workload is accepted after one pass of its datacenter and runs in those that follow,
whichever event brings them, until it finishes.  `lifetimes` lists the accepted workloads
with the passes that follow; what a datacenter does with an event keeps every workload on
its host in step with them.
-/

namespace CoSimulation

/-- A workload that was accepted, the time of the pass before, and the times of the later
passes of its datacenter. -/
structure Lifetime where
  datacenter : DatacenterId
  host : HostId
  workload : Workload
  start : Seconds
  passes : List Seconds

namespace Lifetime

/-- The lifetime with one pass more. -/
def extend (lifetime : Lifetime) (time : Seconds) : Lifetime :=
  { lifetime with passes := lifetime.passes ++ [time] }

def meet (lifetime : Lifetime) (pass : Pass) : Lifetime :=
  if pass.datacenter = lifetime.datacenter then lifetime.extend pass.time else lifetime

/-- Where the next slice begins. -/
def last (lifetime : Lifetime) : Seconds := latest lifetime.start lifetime.passes

end Lifetime

/-- The workloads that were accepted after passes, each with the passes that follow. -/
def lifetimes : List Pass → List Lifetime
  | [] => []
  | pass :: later =>
      match pass.accepted with
      | none => lifetimes later
      | some (host, workload) =>
          { datacenter := pass.datacenter, host := host, workload := workload
            start := pass.time
            passes :=
              (later.filter fun other => other.datacenter = pass.datacenter).map Pass.time } ::
            lifetimes later

theorem lifetimes_concat (earlier : List Pass) (pass : Pass) :
    lifetimes (earlier ++ [pass]) =
      (lifetimes earlier).map (Lifetime.meet · pass) ++ lifetimes [pass] := by
  induction earlier with
  | nil => rfl
  | cons first later induction =>
      rw [List.cons_append, lifetimes, lifetimes, induction]
      cases first.accepted with
      | none => rfl
      | some accepted =>
          simp only [List.map_cons, List.cons_append, List.filter_append, Lifetime.meet]
          by_cases same : pass.datacenter = first.datacenter
          · simp [same, Lifetime.extend]
          · simp [same]

theorem datacenter_of_mem_lifetimes {pass : Pass} {lifetime : Lifetime}
    (member : lifetime ∈ lifetimes [pass]) : lifetime.datacenter = pass.datacenter := by
  rw [lifetimes] at member
  split at member
  · cases member
  · rw [List.mem_singleton.1 member]

/-! ## On a host -/

namespace Host

/-- The workload is on the host and has run in all slices until it finished, unless it was
reclaimed; and the next slice begins where the last one has ended. -/
structure Follows (host : Host) (lifetime : Lifetime) : Prop where
  previous : host.scheduler.previous = lifetime.last
  kept : lifetime.workload.id ∈ host.scheduler.reclaimed ∨
    ∃ found ∈ host.scheduler.workloads, found.terms = lifetime.workload.terms ∧
      found.Lived lifetime.start lifetime.passes

variable {host : Host} {next : Scheduler} {lifetime : Lifetime}

/-- A tick is a slice more for every workload that has not finished. -/
theorem Follows.ticked (follows : host.Follows lifetime) {now : Seconds}
    (lawful : host.Lawful now) {network : Network} (clock : network.now.IsInstant)
    (forward : now.rank ≤ network.now.rank) :
    (host.ticked network network.now).Follows (lifetime.extend network.now) := by
  obtain ⟨previous, kept⟩ := follows
  constructor
  · rw [Lifetime.last, Lifetime.extend, latest_concat]
    simp only [Host.ticked, tick, Host.collected, Scheduler.takeCompleted,
      Scheduler.tick_previous]
  · rcases kept with reclaimed | ⟨found, member, terms, lived⟩
    · apply Or.inl
      simp only [Host.ticked, tick, Host.collected, Scheduler.takeCompleted,
        Scheduler.tick_reclaimed]
      exact reclaimed
    · apply Or.inr
      have every {other : Workload} :
          other ∈ (host.ticked network network.now).scheduler.workloads ↔
            other ∈ host.scheduler.turned network network.now host.mips ++
              host.scheduler.finished.values :=
        (ticked_workloads lawful.formed network.now).mem_iff
      rcases List.mem_append.1 member with active | finished
      · have running := lawful.formed.running found active
        have monotone := (lawful.later forward).monotone clock
        let turned := found.turn network network.now host.scheduler.previous
          (host.scheduler.capacity host.mips)
        have more : turned.workload.Lived lifetime.start (lifetime.passes ++ [network.now]) := by
          simp only [turned]
          rw [previous] at monotone ⊢
          exact ((lived.tiled running).turn running network _ monotone).lived
        refine ⟨turned.workload, every.2 (List.mem_append_left _ ?_), ?_, more⟩
        · rw [Scheduler.turned_eq]
          exact List.mem_map_of_mem active
        · exact (found.terms_turn _ _ _ _).trans terms
      · obtain ⟨id, present⟩ := Table.mem_values.1 finished
        have ended := (lawful.formed.ended id found present).2
        exact ⟨found, every.2 (List.mem_append_right _ finished), terms, lived.concat ended _⟩

theorem Follows.submit (follows : host.Follows lifetime) {workload : Workload}
    {estimate : Seconds} (taken : host.scheduler.submit workload = .ok (estimate, next)) :
    ({ host with scheduler := next } : Host).Follows lifetime := by
  obtain ⟨previous, kept⟩ := follows
  obtain ⟨-, -, rfl⟩ := Scheduler.submit_eq_ok taken
  refine ⟨previous, ?_⟩
  rcases kept with reclaimed | ⟨found, member, terms, lived⟩
  · exact .inl reclaimed
  · refine .inr ⟨found, ?_, terms, lived⟩
    rcases List.mem_append.1 member with active | finished
    · exact List.mem_append_left _ (List.mem_append_left _ active)
    · exact List.mem_append_right _ finished

/-- The life of a workload begins with the tick before its submission. -/
theorem follows_of_submit {workload : Workload} {estimate : Seconds}
    (taken : host.scheduler.submit workload = .ok (estimate, next))
    (fresh : workload.Tiled host.scheduler.previous []) (datacenter : DatacenterId)
    (id : HostId) :
    ({ host with scheduler := next } : Host).Follows
      { datacenter := datacenter, host := id, workload := workload
        start := host.scheduler.previous, passes := [] } := by
  obtain ⟨-, -, rfl⟩ := Scheduler.submit_eq_ok taken
  refine ⟨rfl, .inr ⟨workload, ?_, rfl, fresh.lived⟩⟩
  exact List.mem_append_left _ (List.mem_append_right _ List.mem_cons_self)

theorem Follows.deliver (follows : host.Follows lifetime) {id : WorkloadId}
    {message : Message} (delivered : Scheduler.Delivered host.scheduler id message next) :
    ({ host with scheduler := next } : Host).Follows lifetime := by
  obtain ⟨previous, kept⟩ := follows
  refine ⟨delivered.previous.trans previous, ?_⟩
  rcases kept with reclaimed | ⟨found, member, terms, lived⟩
  · apply Or.inl
    change lifetime.workload.id ∈ next.reclaimed
    rw [delivered.reclaimed]
    exact reclaimed
  · apply Or.inr
    rcases delivered.mem_workloads member with same | received
    · exact ⟨found, same, terms, lived⟩
    · exact ⟨_, received, (found.terms_receive message).trans terms, lived.receive message⟩

theorem Follows.reclaim (follows : host.Follows lifetime)
    (formed : host.scheduler.WellFormed) {id : WorkloadId} {workload : Workload}
    (handed : Scheduler.HandedBack host.scheduler id workload next) :
    ({ host with scheduler := next } : Host).Follows lifetime := by
  obtain ⟨previous, kept⟩ := follows
  refine ⟨handed.previous.trans previous, ?_⟩
  rcases kept with reclaimed | ⟨found, member, terms, lived⟩
  · apply Or.inl
    change lifetime.workload.id ∈ next.reclaimed
    rw [handed.reclaimed]
    exact List.mem_cons_of_mem _ reclaimed
  · rcases List.mem_cons.1 (handed.workloads.mem_iff.1 member) with same | stays
    · apply Or.inl
      change lifetime.workload.id ∈ next.reclaimed
      rw [handed.reclaimed, ← Workload.id_eq_of_terms terms, same,
        (formed.ended id workload handed.present).1]
      exact List.mem_cons_self
    · exact .inr ⟨found, stays, terms, lived⟩

end Host

/-! ## In a datacenter -/

namespace Datacenter

def Follows (datacenter : Datacenter) (lifetime : Lifetime) : Prop :=
  ∃ host, datacenter.host? lifetime.host = some host ∧ host.Follows lifetime

variable {datacenter : Datacenter} {network : Network} {now : Seconds} {lifetime : Lifetime}

theorem Follows.pass (follows : datacenter.Follows lifetime) (lawful : datacenter.Lawful now)
    (clock : network.now.IsInstant) (forward : now.rank ≤ network.now.rank) :
    (datacenter.pass network).1.Follows (lifetime.extend network.now) := by
  obtain ⟨host, found, kept⟩ := follows
  exact ⟨_, host?_pass found, kept.ticked (lawful.hosts _ host found) clock forward⟩

theorem Follows.reschedule (follows : datacenter.Follows lifetime) {id : HostId} {host : Host}
    {next : Scheduler} (found : datacenter.host? id = some host)
    (kept : host.Follows lifetime →
      ({ host with scheduler := next } : Host).Follows lifetime) :
    (datacenter.reschedule id host next).Follows lifetime := by
  obtain ⟨other, present, here⟩ := follows
  rw [Follows, host?_reschedule]
  split
  · rename_i same
    rw [same, found] at present
    cases present
    exact ⟨_, rfl, kept here⟩
  · exact ⟨other, present, here⟩

/-- An event that brings no pass leaves all lives as they are; a pass is a slice more in
each, and the life of the workload that is accepted after it begins. -/
theorem Handled.follows {event : Event} {reaction : Reaction Datacenter Unit}
    (handled : datacenter.Handled network event reaction) (lawful : datacenter.Lawful now)
    (clock : network.now.IsInstant) (forward : now.rank ≤ network.now.rank)
    (fresh : ∀ host workload, event = .submit host workload →
      ∀ start, workload.Tiled start []) (target : DatacenterId) :
    match datacenter.passFor { time := network.now, target := target, event := event } with
    | none => ∀ lifetime, datacenter.Follows lifetime → reaction.state.Follows lifetime
    | some pass =>
        (∀ lifetime, datacenter.Follows lifetime →
          reaction.state.Follows (lifetime.extend network.now)) ∧
        ∀ lifetime ∈ lifetimes [pass], reaction.state.Follows lifetime := by
  cases handled with
  | skipped soon =>
      simp only [passFor, soon, if_true]
      exact fun lifetime follows => follows
  | passed due =>
      simp only [passFor, due]
      constructor
      · exact fun lifetime follows => follows.pass lawful clock forward
      · intro lifetime member
        cases member
  | @accepted id host workload estimate next found taken =>
      have accepts := lawful.accepts_of_submit found taken
      simp only [passFor, accepts, if_true]
      constructor
      · intro lifetime follows
        exact (follows.pass lawful clock forward).reschedule found fun here =>
          here.submit taken
      · intro lifetime member
        obtain ⟨before, -, rfl⟩ := of_host?_pass found
        have latest : (before.ticked network network.now).scheduler.previous = network.now := by
          simp only [Host.ticked, Host.tick, Host.collected, Scheduler.takeCompleted,
            Scheduler.tick_previous]
        have begins := Host.follows_of_submit taken (fresh id workload rfl _) target id
        rw [latest] at begins
        rw [List.mem_singleton.1 member]
        exact ⟨_, Table.get?_insert_self _ _ _, begins⟩
  | delivered routed found taken =>
      exact fun lifetime follows => follows.reschedule found fun here => here.deliver taken
  | refused => exact fun lifetime follows => follows

end Datacenter

/-! ## In a deployment -/

namespace Simulation

def Follows (simulation : Simulation) (lifetime : Lifetime) : Prop :=
  ∃ datacenter, simulation.datacenters.get? lifetime.datacenter = some datacenter ∧
    datacenter.Follows lifetime

theorem Absorbed.follows {before after : Simulation} {entry : Scheduled Event}
    {rest : EventQueue Event} {reaction : Reaction Datacenter Unit} {fault : Option Fault}
    (absorbed : before.Absorbed entry rest reaction fault after) {lifetime : Lifetime}
    (here : lifetime.datacenter = entry.target → reaction.state.Follows lifetime)
    (elsewhere : lifetime.datacenter ≠ entry.target → before.Follows lifetime) :
    after.Follows lifetime := by
  rw [Follows, absorbed.datacenters, Table.get?_insert]
  split
  · rename_i same
    exact ⟨_, rfl, here same⟩
  · rename_i different
    exact elsewhere different

end Simulation

namespace Deployment

theorem Issued.tiled {deployment : Deployment} {workload : Workload}
    (issued : deployment.Issued workload) (start : Seconds) : workload.Tiled start [] := by
  obtain ⟨id, placement, label, respond, rfl⟩ := issued
  constructor
  · rfl
  · rfl
  · intro early begins some
    exact absurd (List.prefix_nil.1 begins) some
  · rfl

/-- All workloads that were accepted have lived through the passes since. -/
def Follows (made : List Pass) (deployment : Deployment) : Prop :=
  ∀ lifetime ∈ lifetimes made, deployment.simulation.Follows lifetime

theorem Follows.ran {earlier : List Pass} {deployment : Deployment}
    (follows : Follows earlier deployment) (consistent : deployment.Consistent)
    {limit : Seconds} {fault : Option Fault} {next : Simulation}
    (stepped : deployment.simulation.step? deployment.broker.registry limit =
      some (fault, next)) :
    Follows (earlier ++ deployment.simulation.nextPass?.toList)
      { deployment with simulation := next } := by
  obtain ⟨entry, rest, datacenter, reaction, popped, -, found, handled, absorbed⟩ :=
    consistent.step? stepped
  have first : entry ∈ deployment.simulation.queue.pending :=
    (EventQueue.pop?_eq_some.1 popped).1 ▸ List.mem_cons_self
  have fresh : ∀ host workload, entry.event = .submit host workload →
      ∀ start, workload.Tiled start [] := fun host workload brings =>
    (consistent.submissions entry first host workload brings).2.tiled
  have kept := handled.follows (consistent.lawful _ _ found)
    (consistent.ordered.instants entry first) (consistent.ordered.upcoming entry first) fresh
    entry.target
  change match datacenter.passFor entry with | none => _ | some pass => _ at kept
  have here : ∀ lifetime ∈ lifetimes earlier, lifetime.datacenter = entry.target →
      datacenter.Follows lifetime := by
    intro lifetime member same
    obtain ⟨owner, present, follow⟩ := follows lifetime member
    rw [same, found] at present
    cases present
    exact follow
  rw [Simulation.nextPass?_eq popped found]
  cases made : datacenter.passFor entry with
  | none =>
      rw [made] at kept
      rw [Option.toList_none, List.append_nil]
      intro lifetime member
      exact absorbed.follows (fun same => kept lifetime (here lifetime member same))
        fun _ => follows lifetime member
  | some pass =>
      rw [made] at kept
      obtain ⟨target, time⟩ := Datacenter.target_of_passFor made
      rw [Option.toList_some, Follows, lifetimes_concat]
      intro lifetime member
      rcases List.mem_append.1 member with old | new
      · obtain ⟨before, listed, rfl⟩ := List.mem_map.1 old
        rw [Lifetime.meet, target, time]
        split
        · rename_i same
          apply absorbed.follows
          · intro _
            exact kept.1 before (here before listed same.symm)
          · exact fun different => absurd same.symm different
        · rename_i different
          apply absorbed.follows
          · exact fun same => absurd same.symm different
          · exact fun _ => follows before listed
      · apply absorbed.follows
        · exact fun _ => kept.2 lifetime new
        · intro different
          exact absurd ((datacenter_of_mem_lifetimes new).trans target) different

theorem Follows.recorded {earlier made : List Pass} {before after : Deployment}
    (follows : Follows earlier before) (consistent : before.Consistent)
    (recorded : Recorded before made after) : Follows (earlier ++ made) after := by
  cases recorded with
  | quiet step same =>
      rw [List.append_nil]
      intro lifetime member
      obtain ⟨datacenter, found, follow⟩ := follows lifetime member
      exact ⟨datacenter, same ▸ found, follow⟩
  | ran running stepped => exact follows.ran consistent stepped
  | reclaimed id workload =>
      rw [List.append_nil]
      rcases consistent.reclaim_cases id workload with
        same | ⟨datacenter, owner, host, returned, scheduler, found, present, handed, same⟩
      · rw [same]
        exact follows
      · rw [same]
        intro lifetime member
        obtain ⟨other, here, follow⟩ := follows lifetime member
        simp only [Simulation.Follows, Table.get?_insert]
        split
        · rename_i equal
          rw [equal, found] at here
          cases here
          have formed := ((consistent.lawful _ _ found).hosts owner host present).formed
          exact ⟨_, rfl, follow.reschedule present fun kept => kept.reclaim formed handed⟩
        · exact ⟨other, here, follow⟩

theorem Assembled.follows_after {configuration : Configuration} {deployment : Deployment}
    (assembled : Assembled configuration deployment) (operations : List Operation) :
    Follows (deployment.passes operations) (deployment.after operations) :=
  assembled.history_induction Follows (fun _ member => nomatch member)
    (fun consistent recorded follows => follows.recorded consistent recorded) operations

theorem Assembled.nothing_reclaimed {configuration : Configuration} {deployment : Deployment}
    (assembled : Assembled configuration deployment) : deployment.simulation.reclaimed = 0 :=
  Table.sum_eq_zero fun _ _ found => assembled.total_eq_zero (fun _ _ => rfl) found

/-- The datacenters count the passes that are listed, and every workload that was accepted
after one of them and is not reclaimed is still on its host.  There its engine was
initialised with the time of that pass as soon as another one followed, and it has run
once in each that followed until the workload finished, every time from the pass before
on; the elapsed time is the sum of these slices.  The operations may be cut off after any
event, so each of the runs was made in its own pass. -/
theorem slices_tile_lifetimes {configuration : Configuration} {deployment : Deployment}
    (built : configuration.build = .ok deployment) (operations : List Operation) :
    let reached := deployment.after operations
    let made := deployment.passes operations
    (∀ id datacenter, reached.simulation.datacenters.get? id = some datacenter →
      datacenter.counters.passes = made.countP (fun pass => pass.datacenter = id) ∧
        datacenter.counters.submissions =
          made.countP fun pass => pass.datacenter = id ∧ pass.accepted.isSome) ∧
    ∀ lifetime ∈ lifetimes made,
      (∀ datacenter, .reclaim datacenter lifetime.workload.id ∉ operations) →
        ∃ datacenter host found,
          reached.simulation.datacenters.get? lifetime.datacenter = some datacenter ∧
          datacenter.host? lifetime.host = some host ∧
          found ∈ host.scheduler.workloads ∧ found.terms = lifetime.workload.terms ∧
          found.Lived lifetime.start lifetime.passes := by
  have assembled := assembled_of_build built
  intro reached made
  refine ⟨assembled.counts_after operations, fun lifetime member kept => ?_⟩
  obtain ⟨datacenter, found, host, present, follows⟩ :=
    assembled.follows_after operations lifetime member
  rcases follows.kept with reclaimed | ⟨workload, here, terms, lived⟩
  · have somewhere : lifetime.workload.id ∈ reached.simulation.reclaimed :=
      Table.mem_sum.2 ⟨_, datacenter, found, Datacenter.mem_reclaimed present reclaimed⟩
    rcases assembled.consistent.mem_reclaimed_after assembled.waitsIssued somewhere with
      before | ⟨id, operation⟩
    · rw [assembled.nothing_reclaimed] at before
      exact absurd before (Multiset.notMem_zero _)
    · exact absurd operation (kept id)
  · exact ⟨datacenter, host, workload, found, present, here, terms, lived⟩

/-- A workload joins another on its host while that one is running, and the other finishes
before it. -/
def staggeredOperations : List Operation :=
  [.queue 7 ((Placement.unpinned [1] 2).onHost 1) 0 (Engine.relay []), .submit, .run 1 20,
    .queue 8 ((Placement.unpinned [2] 4).onHost 1) 0 (Engine.relay []), .submit, .run 4 40]

theorem slices_tile_lifetimes_staggered :
    let reached := Configuration.paired.assemble.after staggeredOperations
    let made := Configuration.paired.assemble.passes staggeredOperations
    Configuration.paired.build = .ok Configuration.paired.assemble ∧
      (lifetimes made).map (fun lifetime =>
        (lifetime.workload.id, lifetime.start, lifetime.passes)) =
          [(7, 0, [1, 1, 2, 3, 4]), (8, 1, [2, 3, 4])] ∧
      ∃ lifetime ∈ lifetimes made, lifetime.workload.id = 7 ∧
        ∃ datacenter host found,
          reached.simulation.datacenters.get? lifetime.datacenter = some datacenter ∧
          datacenter.host? lifetime.host = some host ∧
          found ∈ host.scheduler.workloads ∧ found.terms = lifetime.workload.terms ∧
          found.Lived lifetime.start lifetime.passes := by
  have built := Configuration.build_of_valid Configuration.paired_valid
  have listed :
      (lifetimes (Configuration.paired.assemble.passes staggeredOperations)).map
        (fun lifetime => (lifetime.workload.id, lifetime.start, lifetime.passes)) =
          [(7, 0, [1, 1, 2, 3, 4]), (8, 1, [2, 3, 4])] := by
    decide +kernel
  have first := listed ▸ List.mem_cons_self
  obtain ⟨lifetime, member, same⟩ := List.mem_map.1 first
  refine ⟨built, listed, lifetime, member, congrArg Prod.fst same, ?_⟩
  apply (slices_tile_lifetimes built staggeredOperations).2 lifetime member
  intro datacenter operation
  simp [staggeredOperations] at operation

end Deployment

end CoSimulation
