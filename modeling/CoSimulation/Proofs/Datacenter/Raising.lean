import CoSimulation.Proofs.Datacenter.Reactions
import CoSimulation.Proofs.Scheduler.Ticks

/-!
# The faults that an event raises

`Datacenter.raised` lists all faults that come up while an event is handled: those of the
workloads, host by host and in the order in which they run, and then that of the submission
or delivery itself.  The hosts and the datacenter each report one fault only, but what is
reported in the end is the first fatal fault of the whole list, or else its first one.  No
fault keeps a host or a workload from its part in a pass.
-/

namespace CoSimulation

/-! ## Faults of workloads and hosts -/

/-- The fault of a tick of a workload, or else of forwarding the records it returned. -/
def Workload.raised? (workload : Workload) (network : Network) (slice : Slice) : Option Fault :=
  match workload.tick slice with
  | (.error fault, _) => some fault
  | (.ok records, next) =>
      match (next.forward network records).result with
      | .error fault => some fault
      | .ok _ => none

theorem Workload.turn_fault_eq (workload : Workload) (network : Network)
    (time previous : Seconds) (capacity : Binary64) :
    (workload.turn network time previous capacity).fault =
      workload.raised? network (workload.sliceOf time previous capacity) := by
  simp only [turn, raised?]
  rw [← sliceOf]
  rcases workload.tick (workload.sliceOf time previous capacity) with ⟨_ | _, _⟩ <;> rfl

namespace Scheduler

/-- The faults of the running workloads in a tick, in the order in which they run. -/
def raised (scheduler : Scheduler) (network : Network) (time : Seconds)
    (mips : List Binary64) : List Fault :=
  scheduler.active.filterMap fun workload =>
    workload.raised? network
      (workload.sliceOf time scheduler.previous (scheduler.capacity mips))

variable {scheduler : Scheduler} {network : Network} {time : Seconds} {mips : List Binary64}

theorem raised_eq :
    scheduler.raised network time mips =
      (scheduler.turns network time mips).filterMap Turn.fault := by
  simp only [raised, turns, List.filterMap_map, Function.comp_def, Workload.turn_fault_eq]

theorem retireAll_contains {done : List Workload} {id : WorkloadId} :
    id ∈ (done.foldl retire scheduler).finished.keys ↔
      id ∈ done.map Workload.id ∨ id ∈ scheduler.finished.keys := by
  induction done generalizing scheduler with
  | nil => simp
  | cons workload done induction =>
      have first : id ∈ (scheduler.retire workload).finished.keys ↔
          id = workload.id ∨ id ∈ scheduler.finished.keys := by
        rw [retire_finished, ← Table.contains_iff, ← Table.contains_iff, Table.contains,
          Table.contains, Table.get?_insert]
        by_cases same : id = workload.id <;> simp [same]
      rw [List.foldl_cons, induction, first, List.map_cons, List.mem_cons]
      tauto

/-- A tick makes no workload known and forgets none. -/
theorem contains_tick (id : WorkloadId) :
    (scheduler.tick network time mips).state.contains id = scheduler.contains id := by
  rw [Bool.eq_iff_iff, contains_iff, contains_iff]
  have ids : id ∈ scheduler.active.map Workload.id ↔
      id ∈ ((scheduler.turned network time mips).filter fun workload =>
          !workload.finished).map Workload.id ∨
        id ∈ (scheduler.ending network time mips).map Workload.id := by
    rw [← scheduler.turned_ids network time mips, ending, ← List.mem_append, ← List.map_append]
    have split := List.filter_append_perm Workload.finished (scheduler.turned network time mips)
    exact ((List.perm_append_comm.trans split).map Workload.id).mem_iff.symm
  have kept : id ∈ (scheduler.tick network time mips).state.finished.keys ↔
      id ∈ (scheduler.ending network time mips).map Workload.id ∨
        id ∈ scheduler.finished.keys := by
    rw [tick_state]
    exact retireAll_contains
  simp only [identities, settled, List.mem_append, tick_active, tick_reclaimed, ids, kept]
  tauto

/-- Why a message cannot be queued on a workload. -/
def deliveryFault? (scheduler : Scheduler) (id : WorkloadId) : Option Fault :=
  if id ∈ scheduler.reclaimed then some (.workloadReclaimed id)
  else if (scheduler.workload? id).isNone then some (.unknownWorkload id)
  else none

theorem deliver_of_fault {id : WorkloadId} {fault : Fault}
    (raised : scheduler.deliveryFault? id = some fault) (message : Message) :
    scheduler.deliver id message = .error fault := by
  rw [deliveryFault?] at raised
  split at raised
  · rename_i reclaimed
    cases raised
    exact deliver_of_reclaimed message reclaimed
  · rename_i unreclaimed
    split at raised
    · rename_i unknown
      cases raised
      rw [Option.isNone_iff_eq_none, workload?] at unknown
      split at unknown
      · cases unknown
      · rename_i inactive
        simp [deliver, modify, unreclaimed, inactive, unknown, Except.map]
    · cases raised

theorem deliver_of_no_fault {id : WorkloadId} (silent : scheduler.deliveryFault? id = none)
    (message : Message) : ∃ next, scheduler.deliver id message = .ok next := by
  rw [deliveryFault?] at silent
  split at silent
  · cases silent
  · rename_i unreclaimed
    split at silent
    · cases silent
    · rename_i known
      rw [workload?] at known
      cases first : scheduler.active.find? fun candidate => candidate.id == id with
      | some found => simp [deliver, modify, unreclaimed, first, Except.map]
      | none =>
          cases kept : scheduler.finished.get? id with
          | some found => simp [deliver, modify, unreclaimed, first, kept, Except.map]
          | none => simp [first, kept] at known

end Scheduler

namespace Datacenter

variable {datacenter : Datacenter} {network : Network} {event : Event}

/-! ## Faults of an event -/

/-- The faults of the hosts in a pass, host by host. -/
def raisedInPass (datacenter : Datacenter) (network : Network) : List Fault :=
  datacenter.hosts.values.flatMap fun host =>
    host.scheduler.raised network network.now host.mips

/-- Why a workload cannot be taken in. -/
def submissionFault? (datacenter : Datacenter) (id : HostId) (workload : Workload) :
    Option Fault :=
  match datacenter.host? id with
  | none => some (.unknownHost id)
  | some host =>
      if host.scheduler.contains workload.id then some (.duplicateWorkload workload.id) else none

/-- Why a message cannot be queued. -/
def deliveryFault? (datacenter : Datacenter) (message : Message) : Option Fault :=
  match datacenter.route? message.destVertex with
  | none => some (.vertexNotRouted message.destVertex)
  | some route =>
      match datacenter.host? route.host with
      | none => some (.unknownHost route.host)
      | some host => host.scheduler.deliveryFault? route.workload

/-- Every fault that comes up while an event is handled, in order. -/
def raised (datacenter : Datacenter) (network : Network) : Event → List Fault
  | .housekeeping =>
      if datacenter.comesTooSoon network.now then [] else datacenter.raisedInPass network
  | .submit id workload =>
      datacenter.raisedInPass network ++ (datacenter.submissionFault? id workload).toList
  | .deliver message => (datacenter.deliveryFault? message).toList

/-- The result says whether there were faults and names the first fatal one, or else the
first. -/
structure Reports (faults : List Fault) (result : Except Fault Unit) : Prop where
  ok : result = .ok () ↔ faults = []
  error : ∀ fault, result = .error fault ↔
    (faults.find? Fault.isFatal).or faults.head? = some fault

theorem reports_of_worst? {faults shown : List Fault}
    (same : Fault.worst? shown = Fault.worst? faults) :
    Reports faults (reportWorst shown ()) where
  ok := by
    rw [reportWorst_eq_ok_iff, ← Fault.worst?_eq_none, same, Fault.worst?_eq_none]
    exact and_iff_left rfl
  error fault := by rw [reportWorst_eq_error_iff, same, Fault.worst?_eq]

theorem reports_toList (fault : Option Fault) :
    Reports fault.toList (match fault with | none => .ok () | some fault => .error fault) := by
  cases fault with
  | none => exact reports_of_worst? (rfl : Fault.worst? [] = Fault.worst? [])
  | some fault => exact reports_of_worst? (rfl : Fault.worst? [fault] = Fault.worst? [fault])

/-! ## Faults of a pass -/

/-- Each host shows the one of its workloads' faults that is to be reported. -/
theorem pass_faults :
    (datacenter.pass network).2.2 =
      (datacenter.hosts.values.map fun host =>
        host.scheduler.raised network network.now host.mips).filterMap Fault.worst? := by
  simp only [pass, updateHosts, Table.values_map, List.filterMap_map, Function.comp_def]
  apply List.filterMap_congr
  intro host _
  rw [Scheduler.raised_eq]
  split
  · rename_i wakeUp succeeded
    exact (Fault.worst?_eq_none.2 (reportWorst_eq_ok_iff.1 succeeded).1).symm
  · rename_i fault failed
    exact (Scheduler.tick_eq_error.1 failed).symm

variable (datacenter network) in
theorem worst?_pass_append (more : List Fault) :
    Fault.worst? ((datacenter.pass network).2.2 ++ more) =
      Fault.worst? (datacenter.raisedInPass network ++ more) := by
  have single : (more.map fun fault => [fault]).filterMap Fault.worst? = more := by
    rw [List.filterMap_map]
    exact List.filterMap_some
  have flat : (more.map fun fault => [fault]).flatten = more := by
    rw [← List.flatMap_def]
    exact List.flatMap_singleton' more
  have grouped := Fault.worst?_filterMap_worst?
    ((datacenter.hosts.values.map fun host =>
      host.scheduler.raised network network.now host.mips) ++ more.map fun fault => [fault])
  rw [List.filterMap_append, single, ← pass_faults, List.flatten_append, flat,
    ← List.flatMap_def] at grouped
  exact grouped

theorem reports_pass : Reports (datacenter.raisedInPass network)
    (reportWorst (datacenter.pass network).2.2 ()) := by
  apply reports_of_worst?
  have same := worst?_pass_append datacenter network []
  rwa [List.append_nil, List.append_nil] at same

/-! ## Faults of each kind of event -/

theorem reports_housekeeping :
    Reports (datacenter.raised network .housekeeping)
      (datacenter.handle network .housekeeping).result := by
  rw [raised, handle, housekeeping]
  split
  · exact reports_of_worst? (rfl : Fault.worst? [] = Fault.worst? [])
  · exact reports_pass

/-- A workload that cannot be taken in leaves nothing but its fault behind. -/
theorem submit_of_fault {id : HostId} {workload : Workload} {fault : Fault}
    (raised : datacenter.submissionFault? id workload = some fault) :
    datacenter.submit network id workload =
      { state := (datacenter.pass network).1
        dispatches := (datacenter.pass network).2.1
        result := reportWorst ((datacenter.pass network).2.2 ++ [fault]) () } := by
  rw [submissionFault?] at raised
  rw [submit]
  cases found : datacenter.host? id with
  | none =>
      have absent : (datacenter.pass network).1.host? id = none := by
        rw [host?] at found
        rw [host?, pass_hosts, Table.get?_map, found]
        rfl
      rw [found] at raised
      cases raised
      simp only [absent]
  | some host =>
      have known : (host.ticked network network.now).scheduler.contains workload.id =
          host.scheduler.contains workload.id := Scheduler.contains_tick workload.id
      simp only [found] at raised
      split at raised
      · rename_i contained
        cases raised
        simp only [host?_pass found, Scheduler.submit, known, contained, if_true]
      · cases raised

theorem submit_of_no_fault {id : HostId} {workload : Workload}
    (silent : datacenter.submissionFault? id workload = none) (network : Network) :
    ∃ host, datacenter.host? id = some host ∧
      let target := host.ticked network network.now
      let next := { target.scheduler with active := target.scheduler.active ++ [workload] }
      let atEnd := (datacenter.pass network).1.housekeepingAtEnd workload.duration
      datacenter.submit network id workload =
        { state := ((datacenter.pass network).1.accept target next workload).arm atEnd.length
          dispatches := (datacenter.pass network).2.1 ++ atEnd
          result := reportWorst (datacenter.pass network).2.2 () } := by
  rw [submissionFault?] at silent
  cases found : datacenter.host? id with
  | none =>
      rw [found] at silent
      cases silent
  | some host =>
      have known : (host.ticked network network.now).scheduler.contains workload.id =
          host.scheduler.contains workload.id := Scheduler.contains_tick workload.id
      simp only [found] at silent
      split at silent
      · cases silent
      · rename_i new
        refine ⟨host, rfl, ?_⟩
        simp only [submit, host?_pass found, Scheduler.submit, known, new, Bool.false_eq_true,
          if_false]

theorem reports_submit (id : HostId) (workload : Workload) :
    Reports (datacenter.raised network (.submit id workload))
      (datacenter.handle network (.submit id workload)).result := by
  rw [raised, handle]
  cases refused : datacenter.submissionFault? id workload with
  | none =>
      obtain ⟨host, -, submitted⟩ := submit_of_no_fault refused network
      rw [submitted, Option.toList_none, List.append_nil]
      exact reports_pass
  | some fault =>
      rw [submit_of_fault refused]
      exact reports_of_worst? (worst?_pass_append datacenter network _)

theorem reports_deliver (message : Message) :
    Reports (datacenter.raised network (.deliver message))
      (datacenter.handle network (.deliver message)).result := by
  have shown : (datacenter.handle network (.deliver message)).result =
      match datacenter.deliveryFault? message with
      | none => .ok ()
      | some fault => .error fault := by
    rw [handle, deliver, deliveryFault?]
    cases datacenter.route? message.destVertex with
    | none => rfl
    | some route =>
        cases found : datacenter.host? route.host with
        | none => simp only [found]
        | some host =>
            simp only [found]
            cases raised : host.scheduler.deliveryFault? route.workload with
            | none =>
                obtain ⟨next, taken⟩ := Scheduler.deliver_of_no_fault raised message
                rw [taken]
                rfl
            | some fault =>
                rw [Scheduler.deliver_of_fault raised message]
                rfl
  rw [raised, shown]
  exact reports_toList _

theorem reports (datacenter : Datacenter) (network : Network) (event : Event) :
    Reports (datacenter.raised network event) (datacenter.handle network event).result := by
  cases event with
  | housekeeping => exact reports_housekeeping
  | submit id workload => exact reports_submit id workload
  | deliver message => exact reports_deliver message

end Datacenter

/-! ## Datacenters and their hosts at any time -/

namespace Scheduler

/-- A scheduler that some requests have led to. -/
def Reached (scheduler : Scheduler) : Prop :=
  ∃ gap requests, scheduler = (create gap).after requests

variable {scheduler next : Scheduler}

theorem after_snoc (requests : List Request) (request : Request) :
    scheduler.after (requests ++ [request]) = ((scheduler.after requests).perform request).2 := by
  induction requests generalizing scheduler with
  | nil => rfl
  | cons first rest induction => exact induction

theorem Reached.perform (reached : scheduler.Reached) (request : Request) :
    (scheduler.perform request).2.Reached := by
  obtain ⟨gap, requests, rfl⟩ := reached
  exact ⟨gap, requests ++ [request], (after_snoc requests request).symm⟩

theorem Reached.after (reached : scheduler.Reached) (requests : List Request) :
    (scheduler.after requests).Reached := by
  induction requests generalizing scheduler with
  | nil => exact reached
  | cons request rest induction => exact induction (reached.perform request)

theorem Reached.filed (reached : scheduler.Reached) : scheduler.Filed := by
  obtain ⟨gap, requests, rfl⟩ := reached
  exact ((accounted_create gap).after requests).filed

theorem Reached.submit (reached : scheduler.Reached) {workload : Workload} {estimate : Seconds}
    (taken : scheduler.submit workload = .ok (estimate, next)) : next.Reached := by
  have performed := reached.perform (.submit workload)
  rw [Scheduler.perform, taken] at performed
  exact performed

theorem Reached.deliver (reached : scheduler.Reached) {id : WorkloadId} {message : Message}
    (taken : scheduler.deliver id message = .ok next) : next.Reached := by
  have performed := reached.perform (.deliver id message)
  rw [Scheduler.perform, taken] at performed
  exact performed

theorem Reached.reclaim (reached : scheduler.Reached) {id : WorkloadId} {workload : Workload}
    (taken : scheduler.reclaim id = .ok (workload, next)) : next.Reached := by
  have performed := reached.perform (.reclaim id)
  rw [Scheduler.perform, taken] at performed
  exact performed

end Scheduler

theorem Host.reached_ticked {host : Host} (reached : host.scheduler.Reached) (network : Network)
    (time : Seconds) : (host.ticked network time).scheduler.Reached :=
  (reached.perform (.tick network time host.mips)).perform .takeCompleted

namespace Datacenter

variable {datacenter : Datacenter} {network : Network} {event : Event}

/-- A datacenter as events, its owner and requests to its hosts can leave it. -/
inductive Reached : Datacenter → Prop where
  | created (id : DatacenterId) (interval gap : Seconds) : Reached (create id interval gap)
  | equipped {datacenter : Datacenter} (before : Reached datacenter) (host : Host)
      (reached : host.scheduler.Reached) : Reached (datacenter.addHost host)
  | asked {datacenter : Datacenter} (before : Reached datacenter) {id : HostId} {host : Host}
      (found : datacenter.host? id = some host) (requests : List Scheduler.Request) :
      Reached (datacenter.reschedule id host (host.scheduler.after requests))
  | collected {datacenter : Datacenter} (before : Reached datacenter) :
      Reached datacenter.takeCompleted.2
  | reclaimed {datacenter next : Datacenter} (before : Reached datacenter) {id : WorkloadId}
      {workload : Workload} (taken : datacenter.reclaim id = .ok (workload, next)) : Reached next
  | handled {datacenter : Datacenter} (before : Reached datacenter) (network : Network)
      (event : Event) : Reached (datacenter.handle network event).state

/-- The hosts stand under their identities, each with a scheduler that requests have led to. -/
structure Orderly (datacenter : Datacenter) : Prop where
  named : ∀ id host, datacenter.host? id = some host → host.id = id
  schedulers : ∀ id host, datacenter.host? id = some host → host.scheduler.Reached

theorem Orderly.addHost (orderly : datacenter.Orderly) {host : Host}
    (reached : host.scheduler.Reached) : (datacenter.addHost host).Orderly where
  named id other found := by
    rcases Table.of_get?_insert found with ⟨same, rfl⟩ | ⟨-, old⟩
    · exact same.symm
    · exact orderly.named id other old
  schedulers id other found := by
    rcases Table.of_get?_insert found with ⟨-, rfl⟩ | ⟨-, old⟩
    · exact reached
    · exact orderly.schedulers id other old

theorem Orderly.reschedule (orderly : datacenter.Orderly) {id : HostId} {host : Host}
    (found : datacenter.host? id = some host) {next : Scheduler} (reached : next.Reached) :
    (datacenter.reschedule id host next).Orderly := by
  have named := orderly.named id host found
  subst named
  have rescheduled : ({ host with scheduler := next } : Host).scheduler.Reached := reached
  exact orderly.addHost rescheduled

theorem Orderly.reclaim (orderly : datacenter.Orderly) {next : Datacenter} {id : WorkloadId}
    {workload : Workload} (taken : datacenter.reclaim id = .ok (workload, next)) :
    next.Orderly := by
  obtain ⟨host, scheduler, first, given, rfl⟩ := reclaim_eq_ok taken
  obtain ⟨owner, found⟩ := Table.mem_values.1 (List.mem_of_find?_eq_some first)
  exact orderly.addHost ((orderly.schedulers owner host found).reclaim given)

theorem Orderly.handle (orderly : datacenter.Orderly) (network : Network) (event : Event) :
    (datacenter.handle network event).state.Orderly where
  named := (reacts datacenter network event).named orderly.named
  schedulers := by
    apply (reacts datacenter network event).forall_host fun host => host.scheduler.Reached
    · exact fun host reached => Host.reached_ticked reached network network.now
    · exact fun id workload _ host estimate next reached taken => reached.submit taken
    · exact fun message _ host workload next reached taken => reached.deliver taken
    · exact orderly.schedulers

theorem Reached.orderly (reached : datacenter.Reached) : datacenter.Orderly := by
  induction reached with
  | created => exact ⟨by simp [create, host?], by simp [create, host?]⟩
  | equipped before host reached orderly => exact orderly.addHost reached
  | asked before found requests orderly =>
      exact orderly.reschedule found ((orderly.schedulers _ _ found).after requests)
  | collected before orderly => exact ⟨orderly.named, orderly.schedulers⟩
  | reclaimed before taken orderly => exact orderly.reclaim taken
  | handled before network event orderly => exact orderly.handle network event

/-! ## Everything takes part in a pass -/

/-- Whether all hosts are brought up to the present for an event. -/
def Passes (datacenter : Datacenter) (network : Network) : Event → Prop
  | .submit .. => True
  | .housekeeping => datacenter.comesTooSoon network.now = false
  | .deliver _ => False

/-- A host was brought up to the present: each of its workloads took its turn, and what it
sent is among the dispatches. -/
structure Attended (network : Network) (host after : Host) (dispatches : List Dispatch) :
    Prop where
  previous : after.scheduler.previous = network.now
  ticks : after.scheduler.counters.ticks = host.scheduler.counters.ticks + 1
  workloadTicks : after.scheduler.counters.workloadTicks =
    host.scheduler.counters.workloadTicks + host.scheduler.active.length
  workloads : ∀ workload ∈ host.scheduler.active, ∃ turn,
    workload.Takes network (workload.sliceOf network.now host.scheduler.previous
      (host.scheduler.capacity host.mips)) turn ∧
    after.scheduler.workload? workload.id = some turn.workload ∧
    ∀ dispatch ∈ turn.dispatches, dispatch ∈ dispatches

theorem attended_pass {id : HostId} {host : Host} (found : datacenter.host? id = some host)
    (reached : host.scheduler.Reached) :
    Attended network host (host.ticked network network.now) (datacenter.pass network).2.1 := by
  have ticked := reached.filed.ticked network network.now host.mips
  have counters : (host.ticked network network.now).scheduler.counters =
      (host.scheduler.tick network network.now host.mips).state.counters := rfl
  refine ⟨ticked.previous, ?_, ?_, fun workload running => ?_⟩
  · rw [counters, ticked.counters]
  · rw [counters, ticked.counters]
  · refine ⟨_, workload.takes_turn _ _ _ _, ?_, fun dispatch sent => ?_⟩
    · have kept := ticked.kept
      rw [Scheduler.turns, List.forall₂_map_right_iff] at kept
      exact List.forall₂_same.1 kept workload running
    · obtain ⟨following, listed, -⟩ := datacenter.pass_dispatches network
      rw [listed]
      apply List.mem_append_left
      refine List.mem_flatMap.2 ⟨host, Table.mem_values.2 ⟨id, found⟩, ?_⟩
      exact List.mem_flatMap.2 ⟨_, List.mem_map_of_mem running, sent⟩

theorem Attended.submit {host after : Host} {dispatches more : List Dispatch}
    (attended : Attended network host after dispatches) (reached : after.scheduler.Reached)
    {workload : Workload} {estimate : Seconds} {next : Scheduler}
    (taken : after.scheduler.submit workload = .ok (estimate, next)) :
    Attended network host { after with scheduler := next } (dispatches ++ more) := by
  have filed := (reached.submit taken).filed
  obtain ⟨-, -, rfl⟩ := Scheduler.submit_eq_ok taken
  refine ⟨attended.previous, attended.ticks, attended.workloadTicks, fun other running => ?_⟩
  obtain ⟨turn, takes, kept, sent⟩ := attended.workloads other running
  refine ⟨turn, takes, ?_, fun dispatch member => List.mem_append_left _ (sent dispatch member)⟩
  obtain ⟨member, named⟩ := reached.filed.workload?_eq_some.1 kept
  refine filed.workload?_eq_some.2 ⟨?_, named⟩
  rcases List.mem_append.1 member with active | finished
  · exact List.mem_append_left _ (List.mem_append_left _ active)
  · exact List.mem_append_right _ finished

theorem Orderly.attended_submit (orderly : datacenter.Orderly) {place : HostId}
    {workload : Workload} {next : Datacenter} {dispatches : List Dispatch}
    (reacts : datacenter.Reacts network (.submit place workload) next dispatches)
    {id : HostId} {host : Host} (found : datacenter.host? id = some host) :
    ∃ after, next.host? id = some after ∧ Attended network host after dispatches := by
  have attended : Attended network host (host.ticked network network.now)
      (datacenter.pass network).2.1 := attended_pass found (orderly.schedulers id host found)
  cases reacts with
  | passed => exact ⟨_, host?_pass found, attended⟩
  | @accepted _ chosen _ _ taken here submitted =>
      obtain ⟨earlier, stood, rfl⟩ := of_host?_pass here
      have named : (earlier.ticked network network.now).id = place :=
        orderly.named place earlier stood
      by_cases same : id = place
      · -- the host that takes the workload in has been brought up to the present before
        subst same
        obtain rfl : host = earlier := Option.some.inj (found.symm.trans stood)
        refine ⟨_, (host?_reschedule id).trans (if_pos named.symm), ?_⟩
        exact attended.submit
          (Host.reached_ticked (orderly.schedulers id host found) network network.now) submitted
      · refine ⟨_, (host?_reschedule id).trans ?_, attended.previous, attended.ticks,
          attended.workloadTicks, fun other running => ?_⟩
        · rw [if_neg fun equal => same (equal.trans named), host?_pass found]
        · obtain ⟨turn, takes, kept, sent⟩ := attended.workloads other running
          exact ⟨turn, takes, kept, fun dispatch member =>
            List.mem_append_left _ (sent dispatch member)⟩

theorem Orderly.attended (orderly : datacenter.Orderly)
    (passes : datacenter.Passes network event) {id : HostId} {host : Host}
    (found : datacenter.host? id = some host) :
    ∃ after, (datacenter.handle network event).state.host? id = some after ∧
      Attended network host after (datacenter.handle network event).dispatches := by
  cases event with
  | deliver => exact passes.elim
  | housekeeping =>
      have due : datacenter.comesTooSoon network.now = false := passes
      have handled : datacenter.handle network .housekeeping =
          { state := (datacenter.pass network).1
            dispatches := (datacenter.pass network).2.1
            result := reportWorst (datacenter.pass network).2.2 () } := by
        rw [Datacenter.handle, housekeeping, due]
        rfl
      rw [handled]
      exact ⟨_, host?_pass found, attended_pass found (orderly.schedulers id host found)⟩
  | submit place workload =>
      exact orderly.attended_submit (reacts_submit datacenter network place workload) found

end Datacenter

end CoSimulation
