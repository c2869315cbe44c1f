import CoSimulation.Proofs.Datacenter.Keeping

/-!
# What a datacenter hands back

A host takes no workload in twice, but two hosts may take in workloads of one identity.  A
datacenter that is to hand a workload back asks the first host that ever knew it, even if
that host has handed its own back already.  So nothing is handed back twice, and a workload
that has ended can be handed back if it is on the first of the hosts that accepted its
identity.  On any other host it stays for good.
-/

namespace CoSimulation

namespace Datacenter

variable {datacenter : Datacenter}

/-! ## The first host that knows a workload -/

/-- No workload of the same identity was accepted on a host that comes before. -/
def Foremost (accepted : List Acceptance) (acceptance : Acceptance) : Prop :=
  ∀ other ∈ accepted, other.workload.id = acceptance.workload.id → acceptance.host ≤ other.host

/-- The workload has ended on its host, whether it is still there or not. -/
def HasEnded (datacenter : Datacenter) (acceptance : Acceptance) : Prop :=
  ∃ host, datacenter.host? acceptance.host = some host ∧
    acceptance.workload.id ∈ host.scheduler.settled

/-- The workload as its host has it, unless it was handed back. -/
def held? (datacenter : Datacenter) (acceptance : Acceptance) : Option Workload :=
  (datacenter.host? acceptance.host).bind fun host =>
    host.scheduler.workload? acceptance.workload.id

section Holds

variable {added : List HostId} {accepted : List Acceptance} {handedBack : List Route}
  (holds : datacenter.Holds added accepted handedBack) {acceptance : Acceptance}
include holds

theorem Holds.find?_of_foremost (member : acceptance ∈ accepted) {host : Host}
    (found : datacenter.host? acceptance.host = some host)
    (foremost : Foremost accepted acceptance) :
    datacenter.hosts.values.find? (fun host => host.scheduler.contains acceptance.workload.id) =
      some host := by
  obtain ⟨same, present, known⟩ := holds.remembers.housed acceptance member
  obtain rfl : host = same := Option.some.inj (found.symm.trans present)
  have contained := Scheduler.contains_iff.2 known
  obtain ⟨first, asked⟩ : ∃ first, datacenter.hosts.values.find?
      (fun host => host.scheduler.contains acceptance.workload.id) = some first := by
    rw [← Option.isSome_iff_exists, List.find?_isSome]
    exact ⟨host, Table.mem_values.2 ⟨_, found⟩, contained⟩
  obtain ⟨key, there, least⟩ := Table.find?_values_eq_some asked
  have knows : acceptance.workload.id ∈ first.scheduler.identities :=
    Scheduler.contains_iff.1 (by simpa using List.find?_some asked)
  obtain ⟨other, listed, same⟩ := List.mem_map.1 (holds.known key first there _ knows)
  have place : other.host = key := congrArg Route.host same
  have before : acceptance.host ≤ key :=
    place ▸ foremost other listed (congrArg Route.workload same)
  have equal : acceptance.host = key := Nat.le_antisymm before (least _ host found contained)
  rw [equal, host?, there] at found
  exact asked.trans found

/-- A workload that has ended is handed back by the first host that knows its identity. -/
theorem Holds.reclaim_of_foremost (member : acceptance ∈ accepted)
    (kept : acceptance.route ∉ handedBack) (ended : datacenter.HasEnded acceptance)
    (foremost : Foremost accepted acceptance) :
    datacenter.handedBackIn (.reclaim acceptance.workload.id) = [acceptance.route] ∧
      ∃ found next, datacenter.held? acceptance = some found ∧
        datacenter.reclaim acceptance.workload.id = .ok (found, next) := by
  obtain ⟨host, found, settled⟩ := ended
  have filed := (holds.remembers.orderly.schedulers _ host found).filed
  have named : host.id = acceptance.host := holds.remembers.orderly.named _ host found
  have first := holds.find?_of_foremost member found foremost
  have finished : acceptance.workload.id ∈ host.scheduler.finished.keys := by
    rcases List.mem_append.1 settled with there | reclaimed
    · exact there
    · exact absurd (holds.remembers.returned acceptance member host found reclaimed) kept
  obtain ⟨workload, present⟩ := Table.mem_keys.1 finished
  obtain ⟨next, taken⟩ : ∃ next,
      host.scheduler.reclaim acceptance.workload.id = .ok (workload, next) := by
    rw [Scheduler.reclaim, present]
    exact ⟨_, rfl⟩
  have here : host.scheduler.workload? acceptance.workload.id = some workload :=
    filed.workload?_eq_some.2 ⟨List.mem_append_right _ (Table.mem_values.2 ⟨_, present⟩),
      (filed.ended _ workload present).1⟩
  refine ⟨?_, workload, datacenter.addHost { host with scheduler := next }, ?_, ?_⟩
  · simp only [handedBackIn, first, taken, named]
    rfl
  · rw [held?, found]
    exact here
  · simp only [Datacenter.reclaim, first, taken]
    rfl

theorem Holds.hasEnded_reclaim (member : acceptance ∈ accepted)
    (ended : datacenter.HasEnded acceptance) (id : WorkloadId) :
    (datacenter.perform (.reclaim id)).HasEnded acceptance := by
  obtain ⟨later, present, -⟩ := (holds.reclaim id).remembers.housed acceptance member
  obtain ⟨host, found, carries⟩ :=
    holds.remembers.orderly.carries_reclaim id _ later present
  obtain ⟨same, there, settled⟩ := ended
  obtain rfl : host = same := Option.some.inj (found.symm.trans there)
  exact ⟨later, present, carries.settled _ settled⟩

theorem Holds.handedBack_of_asked (member : acceptance ∈ accepted)
    (ended : datacenter.HasEnded acceptance) (foremost : Foremost accepted acceptance)
    {ids : List WorkloadId} (asked : acceptance.workload.id ∈ ids) :
    acceptance.route ∈ handedBack ++ datacenter.handedBack (ids.map .reclaim) := by
  induction ids generalizing datacenter handedBack with
  | nil => cases asked
  | cons id later induction =>
      rw [List.map_cons, Datacenter.handedBack, ← List.append_assoc]
      by_cases given : acceptance.route ∈ handedBack ++ datacenter.handedBackIn (.reclaim id)
      · exact List.mem_append_left _ given
      · rw [List.mem_append, not_or] at given
        have different : acceptance.workload.id ≠ id := by
          rintro rfl
          have now := (holds.reclaim_of_foremost member given.1 ended foremost).1
          exact given.2 (now ▸ List.mem_singleton_self _)
        exact induction (holds.reclaim id) (holds.hasEnded_reclaim member ended id)
          ((List.mem_cons.1 asked).resolve_left different)

/-- Only what was accepted is handed back. -/
theorem Holds.accepted_of_handedBack {route : Route} (given : route ∈ handedBack) :
    route ∈ accepted.map Acceptance.route := by
  obtain ⟨host, found, reclaimed⟩ := holds.remembers.reclaimed route given
  exact holds.known _ host found _ (Scheduler.mem_identities.2 (.inr (.inr reclaimed)))

end Holds

/-- A workload is stuck on its host if another one of its identity was accepted on a host that
comes before. -/
structure Stuck (front stuck : Acceptance) (datacenter : Datacenter) (added : List HostId)
    (accepted : List Acceptance) (handedBack : List Route) : Prop where
  holds : datacenter.Holds added accepted handedBack
  listed : front ∈ accepted
  same : front.workload.id = stuck.workload.id
  before : front.host < stuck.host
  kept : stuck.route ∉ handedBack

section Stuck

variable {front stuck : Acceptance} {added : List HostId} {accepted : List Acceptance}
  {handedBack : List Route} (stays : Stuck front stuck datacenter added accepted handedBack)
include stays

/-- The host in front knows the identity for good, so it is the one that is asked. -/
theorem Stuck.not_handedBackIn (request : Request) :
    stuck.route ∉ datacenter.handedBackIn request := by
  intro given
  obtain ⟨first, -, asked, place, -⟩ := of_mem_handedBackIn given
  obtain ⟨key, there, least⟩ := Table.find?_values_eq_some asked
  have named : first.id = key := stays.holds.remembers.orderly.named key first there
  obtain ⟨host, found, known⟩ := stays.holds.remembers.housed front stays.listed
  have contained : host.scheduler.contains stuck.workload.id = true :=
    Scheduler.contains_iff.2 (stays.same ▸ known)
  have above := least front.host host found contained
  rw [← named, ← place] at above
  exact absurd stays.before (Nat.not_lt.2 above)

theorem Stuck.perform {request : Request}
    (ready : ∀ host ∈ request.hosts, host.id ∉ added ∧ host.Unused) :
    Stuck front stuck (datacenter.perform request) (added ++ request.hosts.map Host.id)
      (accepted ++ datacenter.acceptedIn request)
      (handedBack ++ datacenter.handedBackIn request) where
  holds := stays.holds.perform ready
  listed := List.mem_append_left _ stays.listed
  same := stays.same
  before := stays.before
  kept given := (List.mem_append.1 given).elim stays.kept (stays.not_handedBackIn request)

theorem Stuck.not_handedBack {more : List Request}
    (distinct : (added ++ (more.flatMap Request.hosts).map Host.id).Nodup)
    (unused : ∀ host ∈ more.flatMap Request.hosts, host.Unused) :
    stuck.route ∉ datacenter.handedBack more := fun given =>
  (after_induction Stuck.perform stays distinct unused).kept (List.mem_append_right _ given)

end Stuck

/-! ## What can be had back -/

/-- An accepted workload that was not handed back, and how it can be had. -/
structure Retrievable (datacenter : Datacenter) (accepted : List Acceptance)
    (acceptance : Acceptance) (found : Workload) : Prop where
  held : datacenter.held? acceptance = some found
  terms : found.terms = acceptance.workload.terms
  ended : acceptance.workload.finished = false →
    (found.finished = true ↔ datacenter.HasEnded acceptance)
  returned : Foremost accepted acceptance → datacenter.HasEnded acceptance →
    datacenter.handedBackIn (.reclaim acceptance.workload.id) = [acceptance.route] ∧
      ∃ next, datacenter.reclaim acceptance.workload.id = .ok (found, next)

/-- A host turns away what it has accepted before and says so, and nothing else. -/
structure Guards (datacenter : Datacenter) (accepted : List Acceptance) (network : Network)
    (id : HostId) (workload : Workload) : Prop where
  accepts : datacenter.acceptedIn (.handle network (.submit id workload)) =
    if { host := id, workload := workload.id } ∈ accepted.map Acceptance.route then []
    else [{ datacenter := datacenter.id, host := id, workload := workload }]
  reports : Reports
    (datacenter.raisedInPass network ++
      if { host := id, workload := workload.id } ∈ accepted.map Acceptance.route then
        [.duplicateWorkload workload.id]
      else [])
    (datacenter.handle network (.submit id workload)).result

section Holds

variable {added : List HostId} {accepted : List Acceptance} {handedBack : List Route}
  (holds : datacenter.Holds added accepted handedBack)
include holds

theorem Holds.retrievable {acceptance : Acceptance} (member : acceptance ∈ accepted)
    (kept : acceptance.route ∉ handedBack) :
    ∃ found, datacenter.Retrievable accepted acceptance found := by
  obtain ⟨host, found, -⟩ := holds.remembers.housed acceptance member
  have keeps := holds.keeps acceptance member host found
  have unreclaimed : acceptance.workload.id ∉ host.scheduler.reclaimed := fun reclaimed =>
    kept (holds.remembers.returned acceptance member host found reclaimed)
  obtain ⟨workload, here, terms⟩ := keeps.found unreclaimed
  have held : datacenter.held? acceptance = some workload := by
    rw [held?, found]
    exact here
  refine ⟨workload, held, terms, fun running => ?_, fun foremost ended => ?_⟩
  · rw [keeps.ended running workload here, HasEnded]
    simp [found]
  · obtain ⟨given, same, next, again, taken⟩ :=
      holds.reclaim_of_foremost member kept ended foremost
    obtain rfl : workload = same := Option.some.inj (held.symm.trans again)
    exact ⟨given, next, taken⟩

theorem Holds.guards (network : Network) {id : HostId} {host : Host}
    (found : datacenter.host? id = some host) (workload : Workload) :
    datacenter.Guards accepted network id workload := by
  have contains : host.scheduler.contains workload.id = true ↔
      { host := id, workload := workload.id } ∈ accepted.map Acceptance.route := by
    rw [Scheduler.contains_iff]
    refine ⟨fun known => holds.known id host found _ known, fun listed => ?_⟩
    obtain ⟨acceptance, member, same⟩ := List.mem_map.1 listed
    obtain ⟨other, present, known⟩ := holds.remembers.housed acceptance member
    have place : acceptance.host = id := congrArg Route.host same
    have identity : acceptance.workload.id = workload.id := congrArg Route.workload same
    rw [place, found] at present
    cases present
    exact identity ▸ known
  constructor
  · have after : (host.ticked network network.now).scheduler.contains workload.id =
        host.scheduler.contains workload.id := Scheduler.contains_tick workload.id
    simp only [acceptedIn, host?_pass found, Scheduler.submit, after, contains]
    split <;> rfl
  · have reports : Reports (datacenter.raised network (.submit id workload))
        (datacenter.handle network (.submit id workload)).result := reports_submit id workload
    simp only [raised, submissionFault?, found, contains] at reports
    split at reports <;> rename_i listed
    · rw [if_pos listed]
      exact reports
    · rw [if_neg listed]
      exact reports

/-- Once everything has ended, asking for every accepted identity gets back what no other
host is in front of. -/
theorem Holds.all_handedBack_iff (apart : added.Nodup)
    (ended : ∀ acceptance ∈ accepted, datacenter.HasEnded acceptance) {ids : List WorkloadId}
    (asked : ∀ acceptance ∈ accepted, acceptance.workload.id ∈ ids) :
    (handedBack ++ datacenter.handedBack (ids.map .reclaim)).Perm (accepted.map Acceptance.route) ↔
      ∀ acceptance ∈ accepted, acceptance.route ∈ handedBack ∨ Foremost accepted acceptance := by
  have none : (ids.map Request.reclaim).flatMap Request.hosts = [] := by
    simp [List.flatMap_eq_nil_iff, Request.hosts]
  have distinct :
      (added ++ ((ids.map Request.reclaim).flatMap Request.hosts).map Host.id).Nodup := by
    simpa [none] using apart
  have unused : ∀ host ∈ (ids.map Request.reclaim).flatMap Request.hosts, host.Unused := by
    simp [none]
  constructor
  · intro all acceptance member
    rw [or_iff_not_imp_left]
    intro kept other listed same
    by_contra before
    have stuck : Stuck other acceptance datacenter added accepted handedBack :=
      ⟨holds, listed, same, Nat.lt_of_not_le before, kept⟩
    rcases List.mem_append.1 (all.mem_iff.2 (List.mem_map_of_mem member)) with old | new
    · exact kept old
    · exact stuck.not_handedBack distinct unused new
  · intro each
    have last := holds.after distinct unused
    rw [accepted_reclaims, List.append_nil] at last
    rw [List.perm_ext_iff_of_nodup last.once holds.distinct]
    intro route
    refine ⟨last.accepted_of_handedBack, fun listed => ?_⟩
    obtain ⟨acceptance, member, rfl⟩ := List.mem_map.1 listed
    rcases each acceptance member with given | foremost
    · exact List.mem_append_left _ given
    · exact holds.handedBack_of_asked member (ended acceptance member) foremost
        (asked acceptance member)

end Holds

/-- Whatever a datacenter was asked for, a workload is accepted unless its own host has
accepted its identity before, and it is handed back at most once.  One that has ended can be
handed back if no host before its own has accepted its identity, and only then; so once all
have ended, asking for each gets all of them back exactly if that is so for each. -/
theorem reclaims_foremost (id : DatacenterId) (interval gap : Seconds) {requests : List Request}
    (distinct : ((requests.flatMap Request.hosts).map Host.id).Nodup)
    (unused : ∀ host ∈ requests.flatMap Request.hosts, host.Unused) :
    let start := create id interval gap
    let reached := start.after requests
    let accepted := start.accepted requests
    let handedBack := start.handedBack requests
    ((accepted.map Acceptance.route).Nodup ∧ handedBack.Nodup ∧
      ∀ route ∈ handedBack, route ∈ accepted.map Acceptance.route) ∧
    (∀ network place host, reached.host? place = some host →
      ∀ workload, reached.Guards accepted network place workload) ∧
    (∀ acceptance ∈ accepted, acceptance.route ∉ handedBack →
      (∃ found, reached.Retrievable accepted acceptance found) ∧
      (¬ Foremost accepted acceptance →
        ∀ more, (((requests ++ more).flatMap Request.hosts).map Host.id).Nodup →
          (∀ host ∈ more.flatMap Request.hosts, host.Unused) →
            acceptance.route ∉ start.handedBack (requests ++ more))) ∧
    ((∀ acceptance ∈ accepted, reached.HasEnded acceptance) →
      ((start.handedBack (requests ++ accepted.map fun acceptance =>
          .reclaim acceptance.workload.id)).Perm (accepted.map Acceptance.route) ↔
        ∀ acceptance ∈ accepted, acceptance.route ∈ handedBack ∨
          Foremost accepted acceptance)) := by
  intro start reached accepted handedBack
  have holds : reached.Holds ((requests.flatMap Request.hosts).map Host.id) accepted
      handedBack := (holds_create id interval gap).after distinct unused
  refine ⟨⟨holds.distinct, holds.once, fun route => holds.accepted_of_handedBack⟩,
    fun network place host found workload => holds.guards network found workload,
    fun acceptance member kept => ⟨holds.retrievable member kept, fun behind more => ?_⟩,
    fun ended => ?_⟩
  · intro distinct unused given
    rw [List.flatMap_append, List.map_append] at distinct
    rw [handedBack_append] at given
    obtain ⟨front, listed, same, before⟩ : ∃ front ∈ accepted,
        front.workload.id = acceptance.workload.id ∧ front.host < acceptance.host := by
      simpa [Foremost] using behind
    have stuck : Stuck front acceptance reached _ accepted handedBack :=
      ⟨holds, listed, same, before, kept⟩
    rcases List.mem_append.1 given with old | new
    · exact kept old
    · exact stuck.not_handedBack distinct unused new
  · have asked : ∀ acceptance ∈ accepted, acceptance.workload.id ∈
        accepted.map fun acceptance => acceptance.workload.id :=
      fun acceptance member => List.mem_map_of_mem member
    rw [handedBack_append, ← holds.all_handedBack_iff distinct ended asked, List.map_map]
    rfl

/-- Two hosts take in workloads of one identity, and both of them end. -/
def twinRequests : List Request :=
  let workload : Workload := .create 7 (.unpinned [5] 2) (.fresh 1 (Engine.relay []))
  let network (now : Seconds) : Network := { registry := Registry.empty, now := now }
  [.addHost (Host.create 1 [1] 1), .addHost (Host.create 2 [1] 1),
    .handle (network 0) (.submit 1 workload), .handle (network 0) (.submit 2 workload),
    .handle (network 3) .housekeeping]

/-- The second of them is never handed back, however often it is asked for. -/
theorem reclaims_foremost_twins :
    let start := create 1 1 1
    let accepted := start.accepted twinRequests
    ((twinRequests.flatMap Request.hosts).map Host.id).Nodup ∧
      (∀ host ∈ twinRequests.flatMap Request.hosts, host.Unused) ∧
      accepted.map Acceptance.route =
        [{ host := 1, workload := 7 }, { host := 2, workload := 7 }] ∧
      (∀ acceptance ∈ accepted, (start.after twinRequests).HasEnded acceptance) ∧
      ¬ (start.handedBack (twinRequests ++ accepted.map fun acceptance =>
        .reclaim acceptance.workload.id)).Perm (accepted.map Acceptance.route) ∧
      ∀ times, { host := 2, workload := 7 } ∉
        start.handedBack (twinRequests ++ List.replicate times (.reclaim 7)) := by
  intro start accepted
  have distinct : ((twinRequests.flatMap Request.hosts).map Host.id).Nodup := by decide
  have unused : ∀ host ∈ twinRequests.flatMap Request.hosts, host.Unused := by
    intro host member
    obtain rfl | rfl : host = Host.create 1 [1] 1 ∨ host = Host.create 2 [1] 1 := by
      simpa [twinRequests, Request.hosts] using member
    all_goals exact Host.unused_create _ _ _
  have ran : accepted.map Acceptance.route =
        [{ host := 1, workload := 7 }, { host := 2, workload := 7 }] ∧
      start.handedBack twinRequests = [] ∧
      (accepted.all fun acceptance =>
        ((start.after twinRequests).host? acceptance.host).any fun host =>
          host.scheduler.settled.contains acceptance.workload.id) = true := by
    decide +kernel
  obtain ⟨routes, handedBack, settled⟩ := ran
  have ended : ∀ acceptance ∈ accepted, (start.after twinRequests).HasEnded acceptance := by
    intro acceptance member
    obtain ⟨host, found, known⟩ := (Option.any_eq_true _ _).1 (List.all_eq_true.1 settled _ member)
    exact ⟨host, found, by simpa using known⟩
  have listed (route : Route) (given : route ∈ accepted.map Acceptance.route) :
      ∃ acceptance ∈ accepted, acceptance.route = route := List.mem_map.1 given
  rw [routes] at listed
  obtain ⟨first, before, one⟩ := listed { host := 1, workload := 7 } (by simp)
  obtain ⟨second, after, two⟩ := listed { host := 2, workload := 7 } (by simp)
  have kept : second.route ∉ start.handedBack twinRequests := by simp [handedBack]
  have behind : ¬ Foremost accepted second := by
    intro foremost
    have above := foremost first before
      ((congrArg Route.workload one).trans (congrArg Route.workload two).symm)
    have same : second.host = 2 ∧ first.host = 1 :=
      ⟨congrArg Route.host two, congrArg Route.host one⟩
    rw [same.1, same.2] at above
    exact absurd above (by decide)
  obtain ⟨-, -, each, all⟩ := reclaims_foremost 1 1 1 distinct unused
  refine ⟨distinct, unused, routes, ended, fun permuted => ?_, fun times => ?_⟩
  · exact ((all ended).1 permuted second after).elim kept behind
  · have none : (List.replicate times (Request.reclaim 7)).flatMap Request.hosts = [] := by
      simp [List.flatMap_eq_nil_iff, Request.hosts]
    have apart : (((twinRequests ++ List.replicate times (Request.reclaim 7)).flatMap
        Request.hosts).map Host.id).Nodup := by
      rw [List.flatMap_append, none, List.append_nil]
      exact distinct
    have never := (each second after kept).2 behind (List.replicate times (.reclaim 7)) apart
      (by simp [none])
    rwa [two] at never

end Datacenter

end CoSimulation
