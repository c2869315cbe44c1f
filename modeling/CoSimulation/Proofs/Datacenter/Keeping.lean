import CoSimulation.Proofs.Datacenter.Routes

/-!
# What the hosts of a datacenter keep

A scheduler has a workload that was submitted to it until it hands it back, and knows when it
has ended.  Ticks, deliveries and the reclaiming of other workloads change nothing about that,
so the hosts of a datacenter hold what it has accepted, each workload once, until it is handed
back.
-/

namespace CoSimulation

/-! ## What a scheduler keeps -/

namespace Scheduler

/-- A scheduler has a workload that was submitted to it until it hands it back, and knows
whether it has ended if that was not so from the start. -/
structure Keeps (scheduler : Scheduler) (workload : Workload) : Prop where
  found : workload.id ∉ scheduler.reclaimed →
    ∃ found, scheduler.workload? workload.id = some found ∧ found.terms = workload.terms
  ended : workload.finished = false → ∀ found, scheduler.workload? workload.id = some found →
    (found.finished = true ↔ workload.id ∈ scheduler.settled)

/-- A scheduler knows what it knew, keeps what it kept, and what had ended has. -/
structure Carries (before after : Scheduler) : Prop where
  identities : ∀ id, id ∈ after.identities ↔ id ∈ before.identities
  settled : ∀ id ∈ before.settled, id ∈ after.settled
  keeps : ∀ workload, before.Keeps workload → after.Keeps workload

theorem Carries.refl (scheduler : Scheduler) : scheduler.Carries scheduler :=
  ⟨fun _ => Iff.rfl, fun _ ended => ended, fun _ keeps => keeps⟩

variable {scheduler next : Scheduler} {workload : Workload} {id : WorkloadId}

theorem Filed.keeps_tick (filed : scheduler.Filed) (network : Network) (time : Seconds)
    (mips : List Binary64) (keeps : scheduler.Keeps workload) :
    (scheduler.tick network time mips).state.Keeps workload where
  found kept := by
    rw [tick_reclaimed] at kept
    obtain ⟨found, present, terms⟩ := keeps.found kept
    obtain ⟨member, named⟩ := filed.workload?_eq_some.1 present
    rcases List.mem_append.1 member with active | finished
    · let turn := found.turn network time scheduler.previous (scheduler.capacity mips)
      have same : turn.workload.terms = found.terms := found.terms_turn _ _ _ _
      have turned : turn.workload ∈ scheduler.turned network time mips := by
        rw [turned_eq]
        exact List.mem_map_of_mem active
      refine ⟨turn.workload, filed.tick_workload?.2 ⟨.inl turned, ?_⟩, same.trans terms⟩
      exact (Workload.id_eq_of_terms same).trans named
    · exact ⟨found, filed.tick_workload?.2 ⟨.inr finished, named⟩, terms⟩
  ended _ found present := by
    -- whether it was running or had ended before, the tick has sorted it by its flag
    obtain ⟨member, named⟩ := filed.tick.workload?_eq_some.1 present
    rcases List.mem_append.1 member with active | finished
    · have apart := filed.tick.apart (List.mem_map_of_mem active)
      rw [tick_active] at active
      have running : found.finished = false := by simpa using (List.mem_filter.1 active).2
      simp [running, ← named, apart]
    · obtain ⟨key, kept⟩ := Table.mem_values.1 finished
      obtain ⟨same, ended⟩ := filed.tick.ended key found kept
      have settled : key ∈ (scheduler.tick network time mips).state.settled :=
        List.mem_append_left _ (Table.mem_keys.2 ⟨found, kept⟩)
      simp [ended, ← named, same, settled]

theorem Filed.carries_tick (filed : scheduler.Filed) (network : Network) (time : Seconds)
    (mips : List Binary64) : scheduler.Carries (scheduler.tick network time mips).state where
  identities _ := filed.tick_identities.mem_iff
  settled _ ended := filed.tick_settled.mem_iff.2 (List.mem_append_right _ ended)
  keeps _ := filed.keeps_tick network time mips

theorem Filed.carries_deliver (filed : scheduler.Filed) {message : Message}
    (taken : scheduler.deliver id message = .ok next) : scheduler.Carries next := by
  have modified := filed.modified_of_deliver taken
  obtain ⟨⟨received, before, after, -⟩, others⟩ := received_of_deliver taken
  refine ⟨fun other => by rw [modified.identities], fun other ended => modified.settled ▸ ended,
    fun workload keeps => ⟨fun kept => ?_, fun running found present => ?_⟩⟩
  · obtain ⟨found, present, terms⟩ := keeps.found (modified.reclaimed ▸ kept)
    by_cases same : workload.id = id
    · rw [same] at present ⊢
      obtain rfl : received = found := Option.some.inj (before.symm.trans present)
      exact ⟨_, after, (received.terms_receive message).trans terms⟩
    · exact ⟨found, (others _ same).trans present, terms⟩
  · rw [modified.settled]
    by_cases same : workload.id = id
    · have marked := keeps.ended running received (same ▸ before)
      rw [same, after] at present
      rw [← Option.some.inj present, Workload.finished_receive]
      exact marked
    · exact keeps.ended running found ((others _ same).symm.trans present)

/-- What has ended is still there or was handed back. -/
theorem Filed.unreclaimed (filed : scheduler.Filed) (kept : id ∈ scheduler.finished.keys) :
    id ∉ scheduler.reclaimed := by
  have settled := (List.nodup_append.1 filed.distinct).2.1
  exact fun reclaimed => (List.nodup_append.1 settled).2.2 id kept id reclaimed rfl

theorem HandedBack.workload? (handed : HandedBack scheduler id workload next)
    (filed : scheduler.Filed) (other : WorkloadId) :
    next.workload? other = if other = id then none else scheduler.workload? other := by
  have settled : id ∈ scheduler.settled :=
    List.mem_append_left _ (Table.mem_keys.2 ⟨workload, handed.present⟩)
  rw [Scheduler.workload?, Scheduler.workload?, handed.active, handed.finished,
    Table.get?_erase]
  by_cases same : other = id
  · have inactive : scheduler.active.find? (fun candidate => candidate.id == other) = none := by
      apply List.find?_eq_none.2
      intro candidate member named
      have listed := List.mem_map_of_mem (f := Workload.id) member
      rw [beq_iff_eq.1 named, same] at listed
      exact filed.apart listed settled
    rw [inactive, if_pos same]
  · rw [if_neg same, if_neg same]

theorem HandedBack.carries (handed : HandedBack scheduler id workload next)
    (filed : scheduler.Filed) : scheduler.Carries next := by
  refine ⟨fun other => handed.identities.mem_iff, fun other => handed.settled.mem_iff.2,
    fun other keeps => ⟨fun kept => ?_, fun running found present => ?_⟩⟩
  · rw [handed.reclaimed, List.mem_cons, not_or] at kept
    rw [handed.workload? filed, if_neg kept.1]
    exact keeps.found kept.2
  · rw [handed.workload? filed] at present
    split at present
    · cases present
    · rw [handed.settled.mem_iff]
      exact keeps.ended running found present

theorem keeps_submitted {estimate : Seconds}
    (taken : scheduler.submit workload = .ok (estimate, next)) (filed : scheduler.Filed) :
    next.Keeps workload := by
  have after := filed.submit taken
  obtain ⟨new, -, rfl⟩ := submit_eq_ok taken
  have here : Scheduler.workload?
      { scheduler with active := scheduler.active ++ [workload] } workload.id = some workload :=
    after.workload?_eq_some.2
      ⟨List.mem_append_left _ (List.mem_append_right _ (List.mem_singleton_self _)), rfl⟩
  refine ⟨fun _ => ⟨workload, here, rfl⟩, fun running found present => ?_⟩
  obtain rfl : workload = found := Option.some.inj (here.symm.trans present)
  have unsettled : workload.id ∉ scheduler.settled := fun ended =>
    new (List.mem_append_right _ ended)
  have same : Scheduler.settled { scheduler with active := scheduler.active ++ [workload] } =
      scheduler.settled := rfl
  rw [running, same]
  exact iff_of_false Bool.false_ne_true unsettled

theorem Keeps.submit {estimate : Seconds} {other : Workload}
    (taken : scheduler.submit workload = .ok (estimate, next))
    (known : other.id ∈ scheduler.identities) (keeps : scheduler.Keeps other) :
    next.Keeps other := by
  obtain ⟨new, -, rfl⟩ := submit_eq_ok taken
  have different : workload.id ≠ other.id := fun same => new (same ▸ known)
  have same : Scheduler.workload? { scheduler with active := scheduler.active ++ [workload] }
      other.id = scheduler.workload? other.id := by
    simp [workload?, List.find?_append, different]
  exact ⟨fun kept => same ▸ keeps.found kept,
    fun running found present => keeps.ended running found (same ▸ present)⟩

end Scheduler

/-- A host that has never had a workload. -/
structure Host.Unused (host : Host) : Prop where
  reached : host.scheduler.Reached
  identities : host.scheduler.identities = []

theorem Host.unused_create (id : HostId) (mips : List Binary64) (gap : Seconds) :
    (create id mips gap).Unused := ⟨⟨gap, [], rfl⟩, rfl⟩

namespace Datacenter

variable {datacenter next : Datacenter} {network : Network}

/-- The hosts that are there carry on. -/
def Carries (before after : Datacenter) : Prop :=
  ∀ id later, after.host? id = some later →
    ∃ host, before.host? id = some host ∧ host.scheduler.Carries later.scheduler

theorem carries_of_hosts (same : next.hosts = datacenter.hosts) : datacenter.Carries next := by
  intro id later found
  rw [host?, same] at found
  exact ⟨later, found, .refl _⟩

theorem carries_reschedule {id : HostId} {host : Host} {scheduler : Scheduler}
    (found : datacenter.host? id = some host) (carries : host.scheduler.Carries scheduler) :
    datacenter.Carries (datacenter.reschedule id host scheduler) := by
  intro other later present
  rw [host?_reschedule] at present
  split at present
  · rename_i same
    cases present
    exact ⟨host, same ▸ found, carries⟩
  · exact ⟨later, present, .refl _⟩

theorem Orderly.carries_pass (orderly : datacenter.Orderly) (network : Network) :
    datacenter.Carries (datacenter.pass network).1 := by
  intro id later present
  obtain ⟨host, found, rfl⟩ := of_host?_pass present
  have filed := (orderly.schedulers id host found).filed
  have ticks := filed.carries_tick network network.now host.mips
  -- collecting the completions changes nothing that is kept
  refine ⟨host, found, ticks.identities, ticks.settled, fun workload keeps => ?_⟩
  exact ⟨(ticks.keeps workload keeps).found, (ticks.keeps workload keeps).ended⟩

theorem Reacts.carries {event : Event} {dispatches : List Dispatch}
    (reacts : datacenter.Reacts network event next dispatches) (orderly : datacenter.Orderly)
    (submits : ∀ id workload, event ≠ .submit id workload) : datacenter.Carries next := by
  cases reacts with
  | skipped | refused => exact carries_of_hosts rfl
  | passed => exact orderly.carries_pass network
  | accepted => exact absurd rfl (submits _ _)
  | delivered routed found taken =>
      have filed := (orderly.schedulers _ _ found).filed
      exact carries_reschedule found (filed.carries_deliver taken)

theorem Orderly.carries_reclaim (orderly : datacenter.Orderly) (id : WorkloadId) :
    datacenter.Carries (datacenter.perform (.reclaim id)) := by
  rw [perform]
  split
  · rename_i workload next taken
    obtain ⟨host, scheduler, first, given, rfl⟩ := reclaim_eq_ok taken
    obtain ⟨owner, found⟩ := Table.mem_values.1 (List.mem_of_find?_eq_some first)
    have named : host.id = owner := orderly.named owner host found
    subst named
    have filed := (orderly.schedulers _ host found).filed
    exact carries_reschedule found ((Scheduler.reclaim_eq_ok given).carries filed)
  · exact carries_of_hosts rfl

/-! ## What was accepted is held until it is handed back -/

theorem handedBack_append (datacenter : Datacenter) (early late : List Request) :
    datacenter.handedBack (early ++ late) =
      datacenter.handedBack early ++ (datacenter.after early).handedBack late := by
  induction early generalizing datacenter with
  | nil => rfl
  | cons request early induction =>
      rw [List.cons_append, handedBack, induction, handedBack, List.append_assoc]
      rfl

theorem accepted_reclaims (datacenter : Datacenter) (ids : List WorkloadId) :
    datacenter.accepted (ids.map .reclaim) = [] := by
  induction ids generalizing datacenter with
  | nil => rfl
  | cons id later induction => exact induction _

theorem of_mem_handedBackIn {request : Request} {route : Route}
    (given : route ∈ datacenter.handedBackIn request) :
    ∃ host, request = .reclaim route.workload ∧
      datacenter.hosts.values.find? (fun host => host.scheduler.contains route.workload) =
        some host ∧ route.host = host.id ∧
          ∃ workload next, host.scheduler.reclaim route.workload = .ok (workload, next) := by
  cases request with
  | addHost | handle | takeCompleted => cases given
  | reclaim id =>
      rw [handedBackIn] at given
      split at given
      · rename_i host first
        cases taken : host.scheduler.reclaim id with
        | error fault =>
            rw [taken] at given
            cases given
        | ok result =>
            rw [taken] at given
            obtain rfl := List.mem_singleton.1 given
            exact ⟨host, rfl, first, rfl, _, _, taken⟩
      · cases given

theorem nodup_handedBackIn (datacenter : Datacenter) (request : Request) :
    (datacenter.handedBackIn request).Nodup := by
  cases request with
  | addHost | handle | takeCompleted => exact List.nodup_nil
  | reclaim id =>
      rw [handedBackIn]
      split
      · split
        · exact List.nodup_singleton _
        · exact List.nodup_nil
      · exact List.nodup_nil

/-- The hosts know what they have accepted and nothing else, they have accepted it once, and
they keep it until it is handed back. -/
structure Holds (datacenter : Datacenter) (added : List HostId) (accepted : List Acceptance)
    (handedBack : List Route) : Prop where
  remembers : datacenter.Remembers added accepted handedBack
  known : ∀ id host, datacenter.host? id = some host → ∀ workload ∈ host.scheduler.identities,
    { host := id, workload := workload } ∈ accepted.map Acceptance.route
  distinct : (accepted.map Acceptance.route).Nodup
  once : handedBack.Nodup
  keeps : ∀ acceptance ∈ accepted, ∀ host, datacenter.host? acceptance.host = some host →
    host.scheduler.Keeps acceptance.workload

theorem holds_create (id : DatacenterId) (interval gap : Seconds) :
    (create id interval gap).Holds [] [] [] where
  remembers := remembers_create id interval gap
  known := nofun
  distinct := List.nodup_nil
  once := List.nodup_nil
  keeps := List.forall_mem_nil _

section Holds

variable {added : List HostId} {accepted : List Acceptance} {handedBack : List Route}
  (holds : datacenter.Holds added accepted handedBack)
include holds

theorem Holds.carried {hosts : List HostId} {later : List Route} (carries : datacenter.Carries next)
    (remembers : next.Remembers hosts accepted later) (once : later.Nodup) :
    next.Holds hosts accepted later where
  remembers := remembers
  known id after present workload member := by
    obtain ⟨host, found, carried⟩ := carries id after present
    exact holds.known id host found workload ((carried.identities workload).1 member)
  distinct := holds.distinct
  once := once
  keeps acceptance member after present := by
    obtain ⟨host, found, carried⟩ := carries _ after present
    exact carried.keeps _ (holds.keeps acceptance member host found)

theorem Holds.pass (network : Network) :
    (datacenter.pass network).1.Holds added accepted handedBack :=
  holds.carried (holds.remembers.orderly.carries_pass network) (holds.remembers.pass network)
    holds.once

/-- A host that accepts a workload did not know it before. -/
theorem Holds.accept {id : HostId} {host : Host} {workload : Workload} {estimate : Seconds}
    {scheduler : Scheduler} (found : datacenter.host? id = some host)
    (taken : host.scheduler.submit workload = .ok (estimate, scheduler)) (times : Nat) :
    ((datacenter.accept host scheduler workload).arm times).Holds added
      (accepted ++ [{ datacenter := datacenter.id, host := id, workload := workload }])
      handedBack := by
  have new := (Scheduler.submit_eq_ok taken).1
  have more := Scheduler.identities_submit taken
  have filed := (holds.remembers.orderly.schedulers id host found).filed
  have remembers := holds.remembers.accept found taken times
  have hosts (other : HostId) :
      ((datacenter.accept host scheduler workload).arm times).host? other =
        if other = id then some { host with scheduler := scheduler }
        else datacenter.host? other := by
    rw [accept_eq (holds.remembers.orderly.named id host found)]
    exact host?_reschedule other
  constructor
  · exact remembers
  · intro other after present known member
    rw [List.map_append, List.mem_append]
    rw [hosts] at present
    split at present
    · rename_i same
      cases present
      rcases List.mem_cons.1 (more.mem_iff.1 member) with joined | before
      · right
        rw [same, joined]
        exact List.mem_singleton_self _
      · exact .inl (holds.known other host (same ▸ found) known before)
    · exact .inl (holds.known other after present known member)
  · rw [List.map_append, List.nodup_append]
    refine ⟨holds.distinct, List.nodup_singleton _, ?_⟩
    rintro route before last final rfl
    obtain ⟨acceptance, member, rfl⟩ := List.mem_map.1 before
    obtain ⟨same, present, known⟩ := holds.remembers.housed acceptance member
    have equal : acceptance.route = { host := id, workload := workload.id } :=
      List.mem_singleton.1 final
    have place : acceptance.host = id := congrArg Route.host equal
    have identity : acceptance.workload.id = workload.id := congrArg Route.workload equal
    rw [place, found] at present
    cases present
    exact new (identity ▸ known)
  · exact holds.once
  · intro acceptance member after present
    rw [hosts] at present
    rcases List.mem_append.1 member with before | last
    · split at present
      · rename_i same
        cases present
        obtain ⟨again, there, known⟩ := holds.remembers.housed acceptance before
        rw [same, found] at there
        cases there
        exact (holds.keeps acceptance before host (same ▸ found)).submit taken known
      · exact holds.keeps acceptance before after present
    · obtain rfl := List.mem_singleton.1 last
      rw [if_pos rfl] at present
      cases present
      exact Scheduler.keeps_submitted taken filed

theorem Holds.handle (network : Network) (event : Event) :
    (datacenter.handle network event).state.Holds added
      (accepted ++ datacenter.acceptedIn (.handle network event)) handedBack := by
  have remembers := holds.remembers.handle network event
  cases event with
  | submit id workload =>
      have passed := holds.pass network
      refine submitted_induction
        (motive := fun next more => next.Holds added (accepted ++ more) handedBack) ?_ ?_
      · rwa [List.append_nil]
      · exact fun found taken times => passed.accept found taken times
  | housekeeping =>
      rw [acceptedIn, List.append_nil] at remembers ⊢
      have reacted := reacts datacenter network .housekeeping
      exact holds.carried (reacted.carries holds.remembers.orderly (by simp)) remembers holds.once
  | deliver message =>
      rw [acceptedIn, List.append_nil] at remembers ⊢
      have reacted := reacts datacenter network (.deliver message)
      exact holds.carried (reacted.carries holds.remembers.orderly (by simp)) remembers holds.once

/-- What is handed back had ended, so it was not handed back before. -/
theorem Holds.fresh {request : Request} {route : Route}
    (given : route ∈ datacenter.handedBackIn request) : route ∉ handedBack := by
  intro before
  obtain ⟨host, -, first, named, workload, next, taken⟩ := of_mem_handedBackIn given
  obtain ⟨key, found, -⟩ := Table.find?_values_eq_some first
  have place : host.id = key := holds.remembers.orderly.named key host found
  have filed := (holds.remembers.orderly.schedulers key host found).filed
  obtain ⟨other, present, reclaimed⟩ := holds.remembers.reclaimed route before
  rw [named, place, host?, found] at present
  cases present
  have handed := Scheduler.reclaim_eq_ok taken
  exact filed.unreclaimed (Table.mem_keys.2 ⟨workload, handed.present⟩) reclaimed

theorem Holds.reclaim (id : WorkloadId) :
    (datacenter.perform (.reclaim id)).Holds added accepted
      (handedBack ++ datacenter.handedBackIn (.reclaim id)) := by
  refine holds.carried (holds.remembers.orderly.carries_reclaim id) (holds.remembers.reclaim id) ?_
  refine List.nodup_append.2 ⟨holds.once, nodup_handedBackIn datacenter _, ?_⟩
  rintro route before last given rfl
  exact holds.fresh given before

theorem Holds.addHost {host : Host} (new : host.id ∉ added) (reached : host.scheduler.Reached)
    (unused : host.scheduler.identities = []) :
    (datacenter.addHost host).Holds (added ++ [host.id]) accepted handedBack where
  remembers := holds.remembers.addHost new reached
  known id after present workload member := by
    rcases Table.of_get?_insert present with ⟨-, rfl⟩ | ⟨-, old⟩
    · rw [unused] at member
      cases member
    · exact holds.known id after old workload member
  distinct := holds.distinct
  once := holds.once
  keeps acceptance member after present := by
    rcases Table.of_get?_insert present with ⟨same, rfl⟩ | ⟨-, old⟩
    · obtain ⟨before, found, -⟩ := holds.remembers.housed acceptance member
      exact absurd (same ▸ holds.remembers.placed _ before found) new
    · exact holds.keeps acceptance member after old

theorem Holds.perform {request : Request}
    (ready : ∀ host ∈ request.hosts, host.id ∉ added ∧ host.Unused) :
    (datacenter.perform request).Holds (added ++ request.hosts.map Host.id)
      (accepted ++ datacenter.acceptedIn request)
      (handedBack ++ datacenter.handedBackIn request) := by
  cases request with
  | addHost host =>
      obtain ⟨new, unused⟩ := ready host (List.mem_singleton_self host)
      simpa [Datacenter.perform, Request.hosts, acceptedIn, handedBackIn] using
        holds.addHost new unused.reached unused.identities
  | handle network event =>
      simpa [Datacenter.perform, Request.hosts, handedBackIn] using holds.handle network event
  | reclaim id => simpa [Request.hosts, acceptedIn] using holds.reclaim id
  | takeCompleted =>
      have emptied : datacenter.takeCompleted.2.Holds added accepted handedBack :=
        holds.carried (carries_of_hosts rfl) (holds.remembers.of_hosts rfl rfl rfl rfl) holds.once
      simpa [Datacenter.perform, Request.hosts, acceptedIn, handedBackIn] using emptied

theorem Holds.after {requests : List Request}
    (distinct : (added ++ (requests.flatMap Request.hosts).map Host.id).Nodup)
    (unused : ∀ host ∈ requests.flatMap Request.hosts, host.Unused) :
    (datacenter.after requests).Holds (added ++ (requests.flatMap Request.hosts).map Host.id)
      (accepted ++ datacenter.accepted requests)
      (handedBack ++ datacenter.handedBack requests) :=
  after_induction Holds.perform holds distinct unused

end Holds

end Datacenter

end CoSimulation
