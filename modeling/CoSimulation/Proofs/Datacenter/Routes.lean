import CoSimulation.Proofs.Datacenter.Raising
import CoSimulation.Proofs.Heap
import CoSimulation.Proofs.RouteOwnership

/-!
# The routes of a datacenter

Whatever a datacenter is asked for, and whatever of it fails, a vertex is routed to the
workload that was accepted last of those which execute it, and the host of that workload
knows it.  So a message finds its workload unless there never was one or it was handed back.

Workloads may come from anywhere: one may have finished before it is submitted, and two hosts
may have workloads of one identity.  Only the lists of each scheduler are disjoint.
-/

namespace CoSimulation

/-! ## A delivery to a scheduler -/

namespace Workload

/-- What becomes of a message that reaches a workload: it waits with those that wait already,
or, once the workload has finished, it is counted as dropped.  Nothing else changes. -/
inductive Arrives (workload : Workload) (message : Message) : Workload → Prop
  | waits {pending : Heap Message} (running : workload.finished = false)
      (added : pending.toList.Perm (message :: workload.pending.toList)) :
      Arrives workload message
        { workload with
          pending := pending
          counters := { workload.counters with enqueued := workload.counters.enqueued + 1 } }
  | dropped (finished : workload.finished = true) :
      Arrives workload message
        { workload with
          counters := { workload.counters with dropped := workload.counters.dropped + 1 } }

theorem arrives_receive (workload : Workload) (message : Message) :
    workload.Arrives message (workload.receive message) := by
  simp only [receive]
  split
  · rename_i finished
    exact .dropped finished
  · rename_i running
    exact .waits (Bool.eq_false_of_not_eq_true running) (Heap.push_perm _ _)

end Workload

namespace Scheduler

/-- One workload has taken a message in, and every other one is found as it was. -/
structure Received (before : Scheduler) (id : WorkloadId) (message : Message)
    (after : Scheduler) : Prop where
  found : ∃ workload, before.workload? id = some workload ∧
    after.workload? id = some (workload.receive message) ∧
      workload.Arrives message (workload.receive message)
  others : ∀ other, other ≠ id → after.workload? other = before.workload? other

theorem find?_replaceFirst {id : WorkloadId} {replacement : Workload}
    (named : replacement.id = id) (active : List Workload)
    (present : id ∈ active.map Workload.id) (other : WorkloadId) :
    (replaceFirst id replacement active).find? (fun candidate => candidate.id == other) =
      if other = id then some replacement
      else active.find? (fun candidate => candidate.id == other) := by
  induction active with
  | nil => cases present
  | cons candidate others induction =>
      by_cases same : candidate.id = id
      · by_cases asked : other = id
        · simp [replaceFirst, same, named, asked]
        · simp [replaceFirst, same, named, asked, Ne.symm asked]
      · have later : id ∈ others.map Workload.id :=
          (List.mem_cons.1 present).resolve_left (Ne.symm same)
        have rest := induction later
        by_cases asked : other = id
        · simpa [replaceFirst, same, asked] using rest
        · simp [replaceFirst, same, asked, List.find?_cons, rest]

theorem received_of_deliver {scheduler next : Scheduler} {id : WorkloadId} {message : Message}
    (taken : scheduler.deliver id message = .ok next) :
    Received scheduler id message next := by
  rw [deliver, modify] at taken
  split at taken
  · cases taken
  · cases first : scheduler.active.find? (fun candidate => candidate.id == id) with
    | some found =>
        have named : found.id = id := by simpa using List.find?_some first
        have still : (found.receive message).id = id :=
          (Workload.id_eq_of_terms (found.terms_receive message)).trans named
        have present : id ∈ scheduler.active.map Workload.id :=
          List.mem_map.2 ⟨found, List.mem_of_find?_eq_some first, named⟩
        rw [first] at taken
        cases taken
        refine ⟨⟨found, ?_, ?_, found.arrives_receive message⟩, fun other different => ?_⟩
        · simp [workload?, first]
        · simp [workload?, find?_replaceFirst still _ present]
        · simp [workload?, find?_replaceFirst still _ present, different]
    | none =>
        cases kept : scheduler.finished.get? id with
        | some found =>
            rw [first, kept] at taken
            cases taken
            refine ⟨⟨found, ?_, ?_, found.arrives_receive message⟩, fun other different => ?_⟩
            · simp [workload?, first, kept]
            · simp [workload?, first]
            · simp [workload?, Table.get?_insert, different]
        | none =>
            rw [first, kept] at taken
            cases taken

theorem exists_workload? {scheduler : Scheduler} {id : WorkloadId}
    (known : id ∈ scheduler.identities) (kept : id ∉ scheduler.reclaimed) :
    ∃ workload, scheduler.workload? id = some workload := by
  rw [workload?]
  split
  · rename_i found first
    exact ⟨found, rfl⟩
  · rename_i inactive
    rcases mem_identities.1 known with active | ended | reclaimed
    · obtain ⟨workload, member, named⟩ := List.mem_map.1 active
      exact absurd (by simpa using named) (List.find?_eq_none.1 inactive workload member)
    · exact Table.mem_keys.1 ended
    · exact absurd reclaimed kept

theorem Filed.modified_of_deliver {scheduler next : Scheduler} (filed : scheduler.Filed)
    {id : WorkloadId} {message : Message} (taken : scheduler.deliver id message = .ok next) :
    Modified scheduler next := by
  rw [deliver] at taken
  cases modification : scheduler.modify id fun found => ((), found.receive message) with
  | error fault =>
      rw [modification] at taken
      cases taken
  | ok result =>
      rw [modification] at taken
      cases taken
      exact filed.modified (gentle_receive message) modification

theorem Modified.identities {scheduler next : Scheduler} (modified : Modified scheduler next) :
    next.identities = scheduler.identities := by
  rw [Scheduler.identities, modified.activeIds, modified.settled, Scheduler.identities]

end Scheduler

namespace Datacenter

/-! ## Requests -/

/-- Something that is asked of a datacenter. -/
inductive Request where
  | addHost (host : Host)
  | handle (network : Network) (event : Event)
  | reclaim (workload : WorkloadId)
  | takeCompleted

/-- The hosts that a request adds. -/
def Request.hosts : Request → List Host
  | addHost host => [host]
  | handle .. | reclaim _ | takeCompleted => []

/-- The datacenter after a request. -/
def perform (datacenter : Datacenter) : Request → Datacenter
  | .addHost host => datacenter.addHost host
  | .handle network event => (datacenter.handle network event).state
  | .reclaim workload =>
      match datacenter.reclaim workload with
      | .ok (_, next) => next
      | .error _ => datacenter
  | .takeCompleted => datacenter.takeCompleted.2

def after (datacenter : Datacenter) (requests : List Request) : Datacenter :=
  requests.foldl perform datacenter

/-- The workload that a request submits, if its host takes it in after the pass. -/
def acceptedIn (datacenter : Datacenter) : Request → List Acceptance
  | .handle network (.submit id workload) =>
      match (datacenter.pass network).1.host? id with
      | some host =>
          if (host.scheduler.submit workload).isOk then
            [{ datacenter := datacenter.id, host := id, workload := workload }]
          else []
      | none => []
  | .addHost _ | .handle _ .housekeeping | .handle _ (.deliver _) | .reclaim _
  | .takeCompleted => []

/-- The workload that a request gets back, and the host it was on. -/
def handedBackIn (datacenter : Datacenter) : Request → List Route
  | .reclaim workload =>
      match datacenter.hosts.values.find? (fun host => host.scheduler.contains workload) with
      | some host =>
          if (host.scheduler.reclaim workload).isOk then
            [{ host := host.id, workload := workload }]
          else []
      | none => []
  | .addHost _ | .handle .. | .takeCompleted => []

/-- The workloads that are accepted, in order. -/
def accepted (datacenter : Datacenter) : List Request → List Acceptance
  | [] => []
  | request :: later => datacenter.acceptedIn request ++ (datacenter.perform request).accepted later

/-- The workloads that are handed back, in order. -/
def handedBack (datacenter : Datacenter) : List Request → List Route
  | [] => []
  | request :: later =>
      datacenter.handedBackIn request ++ (datacenter.perform request).handedBack later

theorem id_perform (datacenter : Datacenter) (request : Request) :
    (datacenter.perform request).id = datacenter.id := by
  cases request with
  | addHost host => rfl
  | handle network event => exact (reacts datacenter network event).id_eq
  | takeCompleted => rfl
  | reclaim workload =>
      rw [perform]
      split
      · rename_i found next taken
        obtain ⟨host, scheduler, -, -, rfl⟩ := reclaim_eq_ok taken
        rfl
      · rfl

theorem id_after (datacenter : Datacenter) (requests : List Request) :
    (datacenter.after requests).id = datacenter.id := by
  induction requests generalizing datacenter with
  | nil => rfl
  | cons request later induction => exact (induction _).trans (id_perform datacenter request)

/-- A submission is a pass, and if a host takes the workload in, its acceptance. -/
theorem submitted_induction {motive : Datacenter → List Acceptance → Prop}
    {datacenter : Datacenter} {network : Network} {id : HostId} {workload : Workload}
    (passed : motive (datacenter.pass network).1 [])
    (accepts : ∀ {host : Host} {estimate : Seconds} {scheduler : Scheduler},
      (datacenter.pass network).1.host? id = some host →
        host.scheduler.submit workload = .ok (estimate, scheduler) → ∀ times,
          motive (((datacenter.pass network).1.accept host scheduler workload).arm times)
            [{ datacenter := datacenter.id, host := id, workload := workload }]) :
    motive (datacenter.handle network (.submit id workload)).state
      (datacenter.acceptedIn (.handle network (.submit id workload))) := by
  simp only [handle, submit, acceptedIn]
  cases found : (datacenter.pass network).1.host? id with
  | none => exact passed
  | some host =>
      cases taken : host.scheduler.submit workload with
      | error fault =>
          simp only [taken]
          rw [Except.isOk, Except.toBool, if_neg Bool.false_ne_true]
          exact passed
      | ok result =>
          simp only [taken]
          exact accepts found taken _

/-- What every request keeps of a datacenter, of the hosts that were added to it, of what it
has accepted and of what it has handed back. -/
theorem after_induction
    {Kept : Datacenter → List HostId → List Acceptance → List Route → Prop} {Ready : Host → Prop}
    (kept : ∀ {datacenter : Datacenter} {added : List HostId} {accepted : List Acceptance}
      {handedBack : List Route}, Kept datacenter added accepted handedBack →
        ∀ {request : Request}, (∀ host ∈ request.hosts, host.id ∉ added ∧ Ready host) →
          Kept (datacenter.perform request) (added ++ request.hosts.map Host.id)
            (accepted ++ datacenter.acceptedIn request)
            (handedBack ++ datacenter.handedBackIn request))
    {datacenter : Datacenter} {added : List HostId} {accepted : List Acceptance}
    {handedBack : List Route} (start : Kept datacenter added accepted handedBack)
    {requests : List Request}
    (distinct : (added ++ (requests.flatMap Request.hosts).map Host.id).Nodup)
    (ready : ∀ host ∈ requests.flatMap Request.hosts, Ready host) :
    Kept (datacenter.after requests) (added ++ (requests.flatMap Request.hosts).map Host.id)
      (accepted ++ datacenter.accepted requests)
      (handedBack ++ datacenter.handedBack requests) := by
  induction requests generalizing datacenter added accepted handedBack with
  | nil => simpa [Datacenter.after, Datacenter.accepted, Datacenter.handedBack] using start
  | cons request later induction =>
      rw [List.flatMap_cons, List.map_append, ← List.append_assoc] at distinct
      rw [List.flatMap_cons, List.forall_mem_append] at ready
      have fresh : ∀ host ∈ request.hosts, host.id ∉ added ∧ Ready host := by
        intro host member
        refine ⟨fun old => ?_, ready.1 host member⟩
        have apart := (List.nodup_append.1 (List.nodup_append.1 distinct).1).2.2
        exact apart host.id old host.id (List.mem_map_of_mem member) rfl
      have step := induction (kept start fresh) distinct ready.2
      rw [List.flatMap_cons, List.map_append, Datacenter.accepted, Datacenter.handedBack]
      simp only [List.append_assoc] at step ⊢
      exact step

/-! ## Hosts remember their workloads -/

/-- The routes and the submissions are as before, and every host still knows its workloads,
of which only these were handed back since. -/
structure Retains (before : Datacenter) (returned : List Route) (after : Datacenter) : Prop where
  id : after.id = before.id
  routes : after.routes = before.routes
  submissions : after.counters.submissions = before.counters.submissions
  hosts : ∀ id host, before.host? id = some host → ∃ later, after.host? id = some later ∧
    (∀ workload ∈ host.scheduler.identities, workload ∈ later.scheduler.identities) ∧
      ∀ workload, workload ∈ later.scheduler.reclaimed ↔
        workload ∈ host.scheduler.reclaimed ∨ { host := id, workload := workload } ∈ returned
  present : ∀ route ∈ returned, ∃ host, before.host? route.host = some host

variable {datacenter : Datacenter} {network : Network}

theorem retains_of_hosts {after : Datacenter} (id : after.id = datacenter.id)
    (routes : after.routes = datacenter.routes) (hosts : after.hosts = datacenter.hosts)
    (submissions : after.counters.submissions = datacenter.counters.submissions) :
    datacenter.Retains [] after where
  id := id
  routes := routes
  submissions := submissions
  hosts place host found := by
    refine ⟨host, ?_, fun workload known => known, by simp⟩
    rw [host?, hosts]
    exact found
  present := nofun

theorem Orderly.retains_pass (orderly : datacenter.Orderly) (network : Network) :
    datacenter.Retains [] (datacenter.pass network).1 where
  id := rfl
  routes := rfl
  submissions := rfl
  hosts place host found := by
    have filed := (orderly.schedulers place host found).filed
    have known : (host.scheduler.tick network network.now host.mips).state.identities.Perm
        host.scheduler.identities := filed.tick_identities
    have reclaimed : (host.ticked network network.now).scheduler.reclaimed =
        host.scheduler.reclaimed :=
      Scheduler.tick_reclaimed host.scheduler network network.now host.mips
    refine ⟨_, host?_pass found, fun workload member => ?_, by simp [reclaimed]⟩
    exact known.mem_iff.2 member
  present := nofun

theorem retains_reschedule {id : HostId} {host : Host} {next : Scheduler}
    {workloads : List WorkloadId} (found : datacenter.host? id = some host)
    (known : ∀ workload ∈ host.scheduler.identities, workload ∈ next.identities)
    (reclaimed : next.reclaimed = workloads ++ host.scheduler.reclaimed) :
    datacenter.Retains (workloads.map fun workload => { host := id, workload := workload })
      (datacenter.reschedule id host next) where
  id := rfl
  routes := rfl
  submissions := rfl
  hosts place other present := by
    rw [host?_reschedule]
    split
    · rename_i same
      subst same
      obtain rfl : host = other := Option.some.inj (found.symm.trans present)
      refine ⟨_, rfl, known, fun workload => ?_⟩
      simp [reclaimed, or_comm]
    · rename_i different
      refine ⟨other, present, fun workload member => member, fun workload => ?_⟩
      simp [Ne.symm different]
  present route member := by
    obtain ⟨workload, -, rfl⟩ := List.mem_map.1 member
    exact ⟨host, found⟩

/-! ## Routes follow acceptances -/

/-- The routes lead to the workloads accepted last, and the hosts know which of all accepted
workloads were handed back. -/
structure Remembers (datacenter : Datacenter) (added : List HostId)
    (accepted : List Acceptance) (handedBack : List Route) : Prop where
  orderly : datacenter.Orderly
  placed : ∀ id host, datacenter.host? id = some host → id ∈ added
  own : ∀ acceptance ∈ accepted, acceptance.datacenter = datacenter.id
  routes : ∀ vertex, datacenter.route? vertex = routeAfter datacenter.id vertex accepted
  housed : ∀ acceptance ∈ accepted, ∃ host, datacenter.host? acceptance.host = some host ∧
    acceptance.workload.id ∈ host.scheduler.identities
  reclaimed : ∀ route ∈ handedBack, ∃ host, datacenter.host? route.host = some host ∧
    route.workload ∈ host.scheduler.reclaimed
  returned : ∀ acceptance ∈ accepted, ∀ host, datacenter.host? acceptance.host = some host →
    acceptance.workload.id ∈ host.scheduler.reclaimed → acceptance.route ∈ handedBack
  submissions : datacenter.counters.submissions = accepted.length

theorem remembers_create (id : DatacenterId) (interval gap : Seconds) :
    (create id interval gap).Remembers [] [] [] where
  orderly := ⟨nofun, nofun⟩
  placed := nofun
  own := List.forall_mem_nil _
  routes _ := rfl
  housed := List.forall_mem_nil _
  reclaimed := nofun
  returned := List.forall_mem_nil _
  submissions := rfl

section Remembers

variable {added : List HostId} {accepted : List Acceptance} {handedBack : List Route}
  {next : Datacenter} (remembers : datacenter.Remembers added accepted handedBack)
include remembers

theorem Remembers.retained {returned : List Route} (retains : datacenter.Retains returned next)
    (orderly : next.Orderly) {hosts : List HostId}
    (placed : ∀ id host, next.host? id = some host → id ∈ hosts) :
    next.Remembers hosts accepted (handedBack ++ returned) where
  orderly := orderly
  placed := placed
  own := by
    rw [retains.id]
    exact remembers.own
  routes vertex := by
    rw [route?, retains.routes, retains.id]
    exact remembers.routes vertex
  housed acceptance member := by
    obtain ⟨host, found, known⟩ := remembers.housed acceptance member
    obtain ⟨later, still, kept, -⟩ := retains.hosts _ host found
    exact ⟨later, still, kept _ known⟩
  reclaimed route member := by
    rcases List.mem_append.1 member with old | new
    · obtain ⟨host, found, reclaimed⟩ := remembers.reclaimed route old
      obtain ⟨later, still, -, same⟩ := retains.hosts _ host found
      exact ⟨later, still, (same _).2 (.inl reclaimed)⟩
    · obtain ⟨host, found⟩ := retains.present route new
      obtain ⟨later, still, -, same⟩ := retains.hosts _ host found
      exact ⟨later, still, (same _).2 (.inr new)⟩
  returned acceptance member later present reclaimed := by
    obtain ⟨host, found, -⟩ := remembers.housed acceptance member
    obtain ⟨same, still, -, equal⟩ := retains.hosts _ host found
    obtain rfl : same = later := Option.some.inj (still.symm.trans present)
    rcases (equal _).1 reclaimed with old | new
    · exact List.mem_append_left _ (remembers.returned acceptance member host found old)
    · exact List.mem_append_right _ new
  submissions := retains.submissions.trans remembers.submissions

theorem Remembers.of_hosts (id : next.id = datacenter.id)
    (routes : next.routes = datacenter.routes) (hosts : next.hosts = datacenter.hosts)
    (submissions : next.counters.submissions = datacenter.counters.submissions) :
    next.Remembers added accepted handedBack := by
  have before {place : HostId} {host : Host} (found : next.host? place = some host) :
      datacenter.host? place = some host := by
    rw [host?, hosts] at found
    exact found
  have orderly : next.Orderly :=
    ⟨fun place host found => remembers.orderly.named place host (before found),
      fun place host found => remembers.orderly.schedulers place host (before found)⟩
  simpa using remembers.retained (retains_of_hosts id routes hosts submissions) orderly
    fun place host found => remembers.placed place host (before found)

theorem Remembers.reschedule {id : HostId} {host : Host} {next : Scheduler}
    (workloads : List WorkloadId) (found : datacenter.host? id = some host)
    (known : ∀ workload ∈ host.scheduler.identities, workload ∈ next.identities)
    (reclaimed : next.reclaimed = workloads ++ host.scheduler.reclaimed)
    (reached : next.Reached) :
    (datacenter.reschedule id host next).Remembers added accepted
      (handedBack ++ workloads.map fun workload => { host := id, workload := workload }) := by
  apply remembers.retained (retains_reschedule found known reclaimed)
    (remembers.orderly.reschedule found reached)
  intro place other present
  rw [host?_reschedule] at present
  split at present
  · rename_i same
    exact same ▸ remembers.placed id host found
  · exact remembers.placed place other present

/-- An acceptance takes over the vertices of the workload. -/
theorem Remembers.accept {id : HostId} {host : Host} {workload : Workload} {estimate : Seconds}
    {next : Scheduler} (found : datacenter.host? id = some host)
    (taken : host.scheduler.submit workload = .ok (estimate, next)) (times : Nat) :
    ((datacenter.accept host next workload).arm times).Remembers added
      (accepted ++ [{ datacenter := datacenter.id, host := id, workload := workload }])
      handedBack := by
  have more := Scheduler.identities_submit taken
  have reached := (remembers.orderly.schedulers id host found).submit taken
  obtain ⟨new, -, same⟩ := Scheduler.submit_eq_ok taken
  have reclaimed : next.reclaimed = host.scheduler.reclaimed := by rw [same]
  have rescheduled : (datacenter.reschedule id host next).Remembers added accepted
      (handedBack ++ []) :=
    remembers.reschedule [] found (fun other known => more.mem_iff.2 (List.mem_cons_of_mem _ known))
      reclaimed reached
  rw [List.append_nil] at rescheduled
  have here : (datacenter.reschedule id host next).host? id =
      some { host with scheduler := next } := (host?_reschedule id).trans (if_pos rfl)
  have routed (vertex : VertexId) :
      (datacenter.routes.insertAll (workload.placement.vertices.keys.map fun vertex =>
        (vertex, { host := id, workload := workload.id }))).get? vertex =
          routeAfter datacenter.id vertex (accepted ++
            [{ datacenter := datacenter.id, host := id, workload := workload }]) := by
    have listed : vertex ∈ workload.placement.vertices.keys ↔
        workload.placement.executes vertex = true := Table.contains_iff.symm
    have before : datacenter.routes.get? vertex = routeAfter datacenter.id vertex accepted :=
      remembers.routes vertex
    rw [Table.get?_insertAll, routeAfter_concat, before]
    simp only [listed, true_and]
    rfl
  rw [accept_eq (remembers.orderly.named id host found)]
  constructor
  · exact ⟨rescheduled.orderly.named, rescheduled.orderly.schedulers⟩
  · exact rescheduled.placed
  · intro acceptance member
    rcases List.mem_append.1 member with old | last
    · exact remembers.own acceptance old
    · exact List.mem_singleton.1 last ▸ rfl
  · exact routed
  · intro acceptance member
    rcases List.mem_append.1 member with old | last
    · exact rescheduled.housed acceptance old
    · rw [List.mem_singleton.1 last]
      exact ⟨_, here, more.mem_iff.2 List.mem_cons_self⟩
  · exact rescheduled.reclaimed
  · intro acceptance member other present given
    rcases List.mem_append.1 member with old | last
    · exact rescheduled.returned acceptance old other present given
    · -- the workload is new to its host, so it cannot have been handed back there
      rw [List.mem_singleton.1 last] at present given
      obtain rfl : { host with scheduler := next } = other :=
        Option.some.inj (here.symm.trans present)
      exact absurd (Scheduler.mem_identities.2 (.inr (.inr (reclaimed ▸ given)))) new
  · have counted := remembers.submissions
    simp only [arm, List.length_append, List.length_singleton, counted]

theorem Remembers.pass (network : Network) :
    (datacenter.pass network).1.Remembers added accepted handedBack := by
  have passed : (datacenter.pass network).1.Remembers added accepted (handedBack ++ []) := by
    refine remembers.retained (remembers.orderly.retains_pass network) ⟨?_, ?_⟩ ?_
    all_goals
      intro id after found
      obtain ⟨host, before, rfl⟩ := of_host?_pass found
    · exact remembers.orderly.named id host before
    · exact Host.reached_ticked (remembers.orderly.schedulers id host before) network network.now
    · exact remembers.placed id host before
  rwa [List.append_nil] at passed

theorem Remembers.submit (network : Network) (id : HostId) (workload : Workload) :
    (datacenter.handle network (.submit id workload)).state.Remembers added
      (accepted ++ datacenter.acceptedIn (.handle network (.submit id workload))) handedBack := by
  have passed := remembers.pass network
  refine submitted_induction
    (motive := fun next more => next.Remembers added (accepted ++ more) handedBack) ?_ ?_
  · rwa [List.append_nil]
  · exact fun found taken times => passed.accept found taken times

theorem Remembers.deliver {next : Datacenter} {message : Message}
    (taken : datacenter.deliver message = .ok next) :
    next.Remembers added accepted handedBack := by
  rw [Datacenter.deliver] at taken
  split at taken
  · cases taken
  · rename_i route routed
    split at taken
    · cases taken
    · rename_i host found
      have reached := remembers.orderly.schedulers route.host host found
      cases given : host.scheduler.deliver route.workload message with
      | error fault =>
          rw [given] at taken
          cases taken
      | ok scheduler =>
          have modified := reached.filed.modified_of_deliver given
          have rescheduled : (datacenter.reschedule route.host host scheduler).Remembers added
              accepted (handedBack ++ []) :=
            remembers.reschedule [] found (fun workload member => modified.identities ▸ member)
              modified.reclaimed (reached.deliver given)
          rw [List.append_nil] at rescheduled
          rw [given] at taken
          cases taken
          exact rescheduled.of_hosts rfl rfl rfl rfl

theorem Remembers.handle (network : Network) (event : Event) :
    (datacenter.handle network event).state.Remembers added
      (accepted ++ datacenter.acceptedIn (.handle network event)) handedBack := by
  cases event with
  | submit id workload => exact remembers.submit network id workload
  | housekeeping =>
      rw [acceptedIn, List.append_nil, Datacenter.handle, housekeeping]
      split
      · exact remembers.of_hosts rfl rfl rfl rfl
      · exact remembers.pass network
  | deliver message =>
      rw [acceptedIn, List.append_nil, Datacenter.handle]
      split
      · exact remembers.deliver ‹_›
      · exact remembers

theorem Remembers.reclaim (id : WorkloadId) :
    (datacenter.perform (.reclaim id)).Remembers added accepted
      (handedBack ++ datacenter.handedBackIn (.reclaim id)) := by
  simp only [Datacenter.perform, Datacenter.reclaim, handedBackIn]
  cases first : datacenter.hosts.values.find? (fun host => host.scheduler.contains id) with
  | none => simpa using remembers
  | some host =>
      obtain ⟨owner, found⟩ := Table.mem_values.1 (List.mem_of_find?_eq_some first)
      have named : host.id = owner := remembers.orderly.named owner host found
      subst named
      cases taken : host.scheduler.reclaim id with
      | error fault =>
          simp only [taken]
          simpa [Except.isOk, Except.toBool] using remembers
      | ok result =>
          obtain ⟨workload, scheduler⟩ := result
          have handed := Scheduler.reclaim_eq_ok taken
          simp only [taken]
          have reached := (remembers.orderly.schedulers _ host found).reclaim taken
          exact remembers.reschedule [id] found
            (fun other known => handed.identities.mem_iff.2 known) handed.reclaimed reached

/-- A host that is new shadows no other. -/
theorem Remembers.addHost {host : Host} (new : host.id ∉ added)
    (reached : host.scheduler.Reached) :
    (datacenter.addHost host).Remembers (added ++ [host.id]) accepted handedBack := by
  have retains : datacenter.Retains [] (datacenter.addHost host) :=
    { id := rfl
      routes := rfl
      submissions := rfl
      hosts := by
        intro id other found
        have different : id ≠ host.id := fun same => new (same ▸ remembers.placed id other found)
        refine ⟨other, ?_, fun workload known => known, by simp⟩
        exact (Table.get?_insert _ _ _ _).trans ((if_neg different).trans found)
      present := nofun }
  have added : ∀ id other, (datacenter.addHost host).host? id = some other →
      id ∈ added ++ [host.id] := by
    intro id other found
    rcases Table.of_get?_insert found with ⟨rfl, -⟩ | ⟨-, old⟩
    · exact List.mem_append_right _ (List.mem_singleton_self _)
    · exact List.mem_append_left _ (remembers.placed id other old)
  simpa using remembers.retained retains (remembers.orderly.addHost reached) added

theorem Remembers.perform {request : Request}
    (ready : ∀ host ∈ request.hosts, host.id ∉ added ∧ host.scheduler.Reached) :
    (datacenter.perform request).Remembers (added ++ request.hosts.map Host.id)
      (accepted ++ datacenter.acceptedIn request)
      (handedBack ++ datacenter.handedBackIn request) := by
  cases request with
  | addHost host =>
      obtain ⟨new, reached⟩ := ready host (List.mem_singleton_self host)
      simpa [Datacenter.perform, Request.hosts, acceptedIn, handedBackIn] using
        remembers.addHost new reached
  | handle network event =>
      simpa [Datacenter.perform, Request.hosts, handedBackIn] using remembers.handle network event
  | reclaim id => simpa [Request.hosts, acceptedIn] using remembers.reclaim id
  | takeCompleted =>
      have emptied : datacenter.takeCompleted.2.Remembers added accepted handedBack :=
        remembers.of_hosts rfl rfl rfl rfl
      simpa [Datacenter.perform, Request.hosts, acceptedIn, handedBackIn] using emptied

theorem Remembers.after {requests : List Request}
    (distinct : (added ++ (requests.flatMap Request.hosts).map Host.id).Nodup)
    (ready : ∀ host ∈ requests.flatMap Request.hosts, host.scheduler.Reached) :
    (datacenter.after requests).Remembers (added ++ (requests.flatMap Request.hosts).map Host.id)
      (accepted ++ datacenter.accepted requests)
      (handedBack ++ datacenter.handedBack requests) :=
  after_induction Remembers.perform remembers distinct ready

end Remembers

/-! ## Deliveries -/

/-- A message was queued on the workload that a route leads to; every other workload is found
as it was, and nothing else has changed but the count of deliveries. -/
structure Queued (before : Datacenter) (route : Route) (message : Message)
    (after : Datacenter) : Prop where
  host : ∃ host scheduler, before.host? route.host = some host ∧
    after.host? route.host = some { host with scheduler := scheduler } ∧
      host.scheduler.Received route.workload message scheduler
  others : ∀ id, id ≠ route.host → after.host? id = before.host? id
  counted : after =
    { before with
      hosts := after.hosts
      counters := { before.counters with deliveries := before.counters.deliveries + 1 } }

/-- What becomes of a message that is delivered to a datacenter. -/
structure Delivers (datacenter : Datacenter) (accepted : List Acceptance)
    (handedBack : List Route) (message : Message) (reaction : Reaction Datacenter Unit) :
    Prop where
  silent : reaction.dispatches = []
  /-- It is not routed exactly if its destination was never accepted. -/
  unrouted : reaction.result = .error (.vertexNotRouted message.destVertex) ↔
    ∀ acceptance ∈ accepted, acceptance.executes message.destVertex = false
  /-- It is too late exactly if its workload was handed back. -/
  late : ∀ workload, reaction.result = .error (.workloadReclaimed workload) ↔
    ∃ route ∈ handedBack, datacenter.route? message.destVertex = some route ∧
      route.workload = workload
  /-- Nothing else goes wrong, and what goes wrong changes nothing. -/
  refused : ∀ fault, reaction.result = .error fault →
    reaction.state = datacenter ∧ (fault = .vertexNotRouted message.destVertex ∨
      ∃ workload, fault = .workloadReclaimed workload)
  taken : reaction.result = .ok () → ∃ route,
    datacenter.route? message.destVertex = some route ∧
      datacenter.Queued route message reaction.state

section Delivery

variable {added : List HostId} {accepted : List Acceptance} {handedBack : List Route}

/-- A route leads to a workload that was accepted and that its host knows. -/
theorem Remembers.of_route? (remembers : datacenter.Remembers added accepted handedBack)
    {vertex : VertexId} {route : Route} (routed : datacenter.route? vertex = some route) :
    ∃ acceptance ∈ accepted, acceptance.executes vertex = true ∧ acceptance.route = route := by
  rw [remembers.routes, routeAfter, Option.map_eq_some_iff] at routed
  obtain ⟨acceptance, last, rfl⟩ := routed
  have member := List.mem_of_getLast? last
  obtain ⟨listed, -, executes⟩ : acceptance ∈ accepted ∧
      acceptance.datacenter = datacenter.id ∧ acceptance.executes vertex = true := by
    simpa using member
  exact ⟨acceptance, listed, executes, rfl⟩

theorem Remembers.route?_eq_none (remembers : datacenter.Remembers added accepted handedBack)
    {vertex : VertexId} : datacenter.route? vertex = none ↔
      ∀ acceptance ∈ accepted, acceptance.executes vertex = false := by
  rw [remembers.routes, routeAfter, Option.map_eq_none_iff, List.getLast?_eq_none_iff,
    List.filter_eq_nil_iff]
  constructor
  · intro none acceptance member
    simpa [remembers.own acceptance member] using none acceptance member
  · intro none acceptance member
    simp [none acceptance member]

/-- The three ways of a message. -/
inductive Outcome (datacenter : Datacenter) (handedBack : List Route) (message : Message) :
    Reaction Datacenter Unit → Prop
  | unrouted (nowhere : datacenter.route? message.destVertex = none) :
      Outcome datacenter handedBack message
        { state := datacenter, dispatches := []
          result := .error (.vertexNotRouted message.destVertex) }
  | late {route : Route} (routed : datacenter.route? message.destVertex = some route)
      (given : route ∈ handedBack) :
      Outcome datacenter handedBack message
        { state := datacenter, dispatches := []
          result := .error (.workloadReclaimed route.workload) }
  | queued {route : Route} {next : Datacenter}
      (routed : datacenter.route? message.destVertex = some route) (kept : route ∉ handedBack)
      (queued : datacenter.Queued route message next) :
      Outcome datacenter handedBack message
        { state := next, dispatches := [], result := .ok () }

/-- The host of a routed workload is still there and knows what has become of it. -/
theorem Remembers.outcome (remembers : datacenter.Remembers added accepted handedBack)
    (network : Network) (message : Message) :
    datacenter.Outcome handedBack message (datacenter.handle network (.deliver message)) := by
  cases routed : datacenter.route? message.destVertex with
  | none =>
      simp only [Datacenter.handle, Datacenter.deliver, routed]
      exact .unrouted routed
  | some route =>
      obtain ⟨acceptance, member, -, rfl⟩ := remembers.of_route? routed
      obtain ⟨host, found, known⟩ := remembers.housed acceptance member
      have present : datacenter.host? acceptance.route.host = some host := found
      by_cases reclaimed : acceptance.workload.id ∈ host.scheduler.reclaimed
      · have refused : host.scheduler.deliver acceptance.route.workload message =
            .error (.workloadReclaimed acceptance.route.workload) :=
          Scheduler.deliver_of_reclaimed message reclaimed
        simp only [Datacenter.handle, Datacenter.deliver, routed, present, refused]
        exact .late routed (remembers.returned acceptance member host found reclaimed)
      · obtain ⟨workload, here⟩ := Scheduler.exists_workload? known reclaimed
        have silent : host.scheduler.deliveryFault? acceptance.workload.id = none := by
          simp [Scheduler.deliveryFault?, reclaimed, here]
        obtain ⟨scheduler, taken⟩ := Scheduler.deliver_of_no_fault silent message
        have delivered : host.scheduler.deliver acceptance.route.workload message =
            .ok scheduler := taken
        have kept : acceptance.route ∉ handedBack := by
          intro given
          obtain ⟨same, again, gone⟩ := remembers.reclaimed _ given
          obtain rfl : host = same := Option.some.inj (found.symm.trans again)
          exact reclaimed gone
        simp only [Datacenter.handle, Datacenter.deliver, routed, present, delivered]
        refine .queued routed kept ⟨⟨host, scheduler, found, ?_, ?_⟩, fun id different => ?_, rfl⟩
        · exact Table.get?_insert_self _ _ _
        · exact Scheduler.received_of_deliver taken
        · exact (Table.get?_insert _ _ _ _).trans (if_neg different)

theorem Remembers.delivers (remembers : datacenter.Remembers added accepted handedBack)
    (network : Network) (message : Message) :
    datacenter.Delivers accepted handedBack message
      (datacenter.handle network (.deliver message)) := by
  have outcome := remembers.outcome network message
  have none : datacenter.route? message.destVertex = none ↔
      ∀ acceptance ∈ accepted, acceptance.executes message.destVertex = false :=
    remembers.route?_eq_none
  generalize datacenter.handle network (.deliver message) = reaction at outcome ⊢
  rcases outcome with nowhere | ⟨routed, given⟩ | ⟨routed, kept, queued⟩
  · constructor
    · rfl
    · exact ⟨fun _ => none.1 nowhere, fun _ => rfl⟩
    · simp [nowhere]
    · rintro fault ⟨⟩
      exact ⟨rfl, .inl rfl⟩
    · simp
  · constructor
    · rfl
    · simp [← none, routed]
    · intro workload
      constructor
      · rintro ⟨⟩
        exact ⟨_, given, routed, rfl⟩
      · rintro ⟨other, -, same, rfl⟩
        obtain rfl := Option.some.inj (routed.symm.trans same)
        rfl
    · rintro fault ⟨⟩
      exact ⟨rfl, .inr ⟨_, rfl⟩⟩
    · simp
  · constructor
    · rfl
    · simp [← none, routed]
    · intro workload
      constructor
      · rintro ⟨⟩
      · rintro ⟨other, returned, same, -⟩
        obtain rfl := Option.some.inj (routed.symm.trans same)
        exact absurd returned kept
    · simp
    · exact fun _ => ⟨_, routed, queued⟩

end Delivery

/-- Whatever a datacenter was asked for, a vertex is routed to the workload that was accepted
last of those which execute it, and its host knows that workload.  A message is refused only
if no workload was ever accepted for it or the routed one was handed back, which changes
nothing; otherwise it is queued on the routed workload. -/
theorem routes_follow_acceptances (id : DatacenterId) (interval gap : Seconds)
    {requests : List Request}
    (distinct : ((requests.flatMap Request.hosts).map Host.id).Nodup)
    (ready : ∀ host ∈ requests.flatMap Request.hosts, host.scheduler.Reached) :
    let start := create id interval gap
    let reached := start.after requests
    (∀ vertex, reached.route? vertex = routeAfter id vertex (start.accepted requests)) ∧
      (∀ vertex route, reached.route? vertex = some route →
        ∃ host, reached.host? route.host = some host ∧
          host.scheduler.contains route.workload = true) ∧
      (∀ network message,
        reached.Delivers (start.accepted requests) (start.handedBack requests) message
          (reached.handle network (.deliver message))) ∧
      reached.counters.submissions = (start.accepted requests).length := by
  intro start reached
  have remembers : reached.Remembers ((requests.flatMap Request.hosts).map Host.id)
      (start.accepted requests) (start.handedBack requests) :=
    (remembers_create id interval gap).after distinct ready
  refine ⟨fun vertex => ?_, fun vertex route routed => ?_, remembers.delivers,
    remembers.submissions⟩
  · have named : reached.id = id := id_after start requests
    exact named ▸ remembers.routes vertex
  · obtain ⟨acceptance, member, -, rfl⟩ := remembers.of_route? routed
    obtain ⟨host, found, known⟩ := remembers.housed acceptance member
    exact ⟨host, found, Scheduler.contains_iff.2 known⟩

/-- Two workloads execute one vertex.  The second takes over its messages, ends first and is
handed back. -/
def sharedRequests : List Request :=
  let workload (id : WorkloadId) (duration : Nat) : Workload :=
    .create id (.unpinned [5] duration) (.fresh 1 (Engine.relay []))
  let network (now : Seconds) : Network := { registry := Registry.empty, now := now }
  [.addHost (Host.create 1 [1] 1), .handle (network 0) (.submit 1 (workload 7 20)),
    .handle (network 0) (.submit 1 (workload 8 2)), .handle (network 3) .housekeeping,
    .reclaim 8]

/-- A message is too late although the first of the two workloads still runs. -/
theorem routes_follow_acceptances_shared :
    let start := create 1 1 1
    let reached := start.after sharedRequests
    ((sharedRequests.flatMap Request.hosts).map Host.id).Nodup ∧
      (∀ host ∈ sharedRequests.flatMap Request.hosts, host.scheduler.Reached) ∧
      (start.accepted sharedRequests).map Acceptance.route =
        [{ host := 1, workload := 7 }, { host := 1, workload := 8 }] ∧
      reached.route? 5 = some { host := 1, workload := 8 } ∧
      reached.counters.submissions = 2 ∧
      ∀ network message, message.destVertex = 5 →
        (reached.handle network (.deliver message)).result = .error (.workloadReclaimed 8) := by
  have distinct : ((sharedRequests.flatMap Request.hosts).map Host.id).Nodup := by decide
  have ready : ∀ host ∈ sharedRequests.flatMap Request.hosts, host.scheduler.Reached := by
    intro host member
    obtain rfl : host = Host.create 1 [1] 1 := by
      simpa [sharedRequests, Request.hosts] using member
    exact ⟨1, [], rfl⟩
  have taken :
      let start := create 1 1 1
      (start.accepted sharedRequests).map Acceptance.route =
          [{ host := 1, workload := 7 }, { host := 1, workload := 8 }] ∧
        start.handedBack sharedRequests = [{ host := 1, workload := 8 }] ∧
        routeAfter 1 5 (start.accepted sharedRequests) = some { host := 1, workload := 8 } := by
    decide +kernel
  obtain ⟨accepted, handedBack, last⟩ := taken
  obtain ⟨routes, -, delivers, submissions⟩ := routes_follow_acceptances 1 1 1 distinct ready
  have counted := congrArg List.length accepted
  rw [List.length_map, ← submissions] at counted
  refine ⟨distinct, ready, accepted, (routes 5).trans last, counted, fun network message due => ?_⟩
  apply ((delivers network message).late 8).2
  exact ⟨_, handedBack ▸ List.mem_singleton_self _, due ▸ (routes 5).trans last, rfl⟩

end Datacenter

end CoSimulation
