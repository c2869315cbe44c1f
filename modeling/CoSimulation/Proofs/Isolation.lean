import CoSimulation.Proofs.Datacenter.Reactions
import CoSimulation.Proofs.Simulation

/-!
# Isolated datacenters do not interfere

Isolated workloads send nothing, so a datacenter that hosts only such workloads asks for
nothing but its own housekeeping.  A run of the whole simulation then moves forward with
the run of any one of its datacenters alone: an event of another datacenter leaves it
where it is, an event of its own is the next one in both runs, and both queues list the
events of the datacenter in the same order.
-/

namespace CoSimulation

/-! ## Isolated workloads -/

theorem Workload.forward_of_isolated {workload : Workload}
    (isolated : workload.transport = .isolated) (network : Network) (records : List Record) :
    workload.forward network records =
      { state := workload, dispatches := [], result := .ok 0 } := by
  simp [forward, isolated]

/-- An isolated workload takes its turn without the network. -/
theorem Workload.turn_of_isolated {workload : Workload}
    (isolated : workload.transport = .isolated) (network other : Network)
    (time previous : Seconds) (capacity : Binary64) :
    workload.turn network time previous capacity =
        workload.turn other time previous capacity ∧
      (workload.turn network time previous capacity).dispatches = [] := by
  have ticked : (workload.tick (workload.sliceOf time previous capacity)).2.transport =
      .isolated := (transport_eq_of_terms (workload.terms_tick _)).trans isolated
  rcases result : workload.tick (workload.sliceOf time previous capacity) with ⟨outcome, next⟩
  rw [result] at ticked
  rw [sliceOf] at result
  cases outcome with
  | error fault => simp [turn, result]
  | ok records => simp [turn, result, forward_of_isolated ticked]

theorem Scheduler.mem_replaceFirst {id : WorkloadId} {replacement found : Workload}
    {active : List Workload} (member : found ∈ replaceFirst id replacement active) :
    found = replacement ∨ found ∈ active := by
  induction active with
  | nil => cases member
  | cons first rest induction =>
      rw [replaceFirst] at member
      split at member
      · exact (List.mem_cons.1 member).imp_right (List.mem_cons_of_mem first)
      · rcases List.mem_cons.1 member with same | later
        · exact .inr (same ▸ List.mem_cons_self)
        · exact (induction later).imp_right (List.mem_cons_of_mem first)

namespace Host

variable {host : Host}

/-- None of the running workloads sends anything. -/
def Isolated (host : Host) : Prop :=
  ∀ workload ∈ host.scheduler.active, workload.transport = .isolated

theorem Isolated.tick_eq (isolated : host.Isolated) (network other : Network)
    (time : Seconds) : host.tick network time = host.tick other time := by
  have turns : host.scheduler.turns network time host.mips =
      host.scheduler.turns other time host.mips :=
    List.map_congr_left fun workload member =>
      (Workload.turn_of_isolated (isolated workload member) network other _ _ _).1
  simp only [tick, Scheduler.tick, turns]

theorem Isolated.tick_dispatches (isolated : host.Isolated) (network : Network)
    (time : Seconds) : (host.tick network time).dispatches = [] := by
  apply List.flatMap_eq_nil_iff.2
  intro turn member
  obtain ⟨workload, active, rfl⟩ := List.mem_map.1 member
  exact (Workload.turn_of_isolated (isolated workload active) network network _ _ _).2

theorem Isolated.ticked (isolated : host.Isolated) (network : Network) (time : Seconds) :
    (host.ticked network time).Isolated := by
  intro workload member
  simp only [Host.ticked, tick, collected, Scheduler.takeCompleted, Scheduler.tick_active,
    Scheduler.turned_eq] at member
  obtain ⟨earlier, active, rfl⟩ := List.mem_map.1 (List.mem_of_mem_filter member)
  exact (Workload.transport_eq_of_terms (earlier.terms_turn _ _ _ _)).trans
    (isolated earlier active)

theorem Isolated.submit (isolated : host.Isolated) {workload : Workload}
    (new : workload.transport = .isolated) {estimate : Seconds} {next : Scheduler}
    (taken : host.scheduler.submit workload = .ok (estimate, next)) :
    ({ host with scheduler := next } : Host).Isolated := by
  obtain ⟨-, -, rfl⟩ := Scheduler.submit_eq_ok taken
  intro found member
  rcases List.mem_append.1 member with old | added
  · exact isolated found old
  · exact List.mem_singleton.1 added ▸ new

theorem Isolated.deliver (isolated : host.Isolated) {id : WorkloadId} {message : Message}
    {next : Scheduler} (taken : host.scheduler.deliver id message = .ok next) :
    ({ host with scheduler := next } : Host).Isolated := by
  rw [Scheduler.deliver, Scheduler.modify] at taken
  split at taken
  · cases taken
  · split at taken
    · rename_i found first
      cases taken
      intro workload member
      rcases Scheduler.mem_replaceFirst member with same | old
      · rw [same]
        exact (Workload.transport_eq_of_terms (found.terms_receive message)).trans
          (isolated found (List.mem_of_find?_eq_some first))
      · exact isolated workload old
    · split at taken
      · cases taken
        exact isolated
      · cases taken

end Host

/-! ## Isolated datacenters -/

/-- The workload that an event brings sends nothing. -/
def Event.Isolated : Event → Prop
  | submit _ workload => workload.transport = .isolated
  | housekeeping | deliver _ => True

namespace Datacenter

variable {datacenter : Datacenter}

def Isolated (datacenter : Datacenter) : Prop :=
  ∀ id host, datacenter.host? id = some host → host.Isolated

theorem Isolated.sent_eq (isolated : datacenter.Isolated) (network : Network) :
    datacenter.sent network = [] := by
  apply List.flatMap_eq_nil_iff.2
  intro host member
  obtain ⟨id, found⟩ := Table.mem_values.1 member
  exact (isolated id host found).tick_dispatches network network.now

/-- What an isolated datacenter does depends on the clock, not on where vertices are. -/
theorem Isolated.handle_eq (isolated : datacenter.Isolated) (registry other : Registry)
    (now : Seconds) (event : Event) :
    datacenter.handle { registry := registry, now := now } event =
      datacenter.handle { registry := other, now := now } event := by
  have outcomes :
      datacenter.hosts.map (fun host => host.tick { registry := registry, now := now } now) =
        datacenter.hosts.map (fun host => host.tick { registry := other, now := now } now) := by
    apply Table.ext_entries
    apply List.map_congr_left
    intro entry member
    have here := isolated entry.1 entry.2 (Table.mem_entries.1 member)
    exact congrArg (Prod.mk entry.1) (here.tick_eq _ _ _)
  have passed : datacenter.pass { registry := registry, now := now } =
      datacenter.pass { registry := other, now := now } := by
    simp only [pass, updateHosts, outcomes]
  cases event with
  | submit id workload => simp only [handle, submit, passed]
  | housekeeping => simp only [handle, housekeeping, passed]
  | deliver message => rfl

theorem Isolated.handle (isolated : datacenter.Isolated) (network : Network) {event : Event}
    (brings : event.Isolated) : (datacenter.handle network event).state.Isolated := by
  apply (reacts datacenter network event).forall_host Host.Isolated
  · exact fun host isolated => isolated.ticked network network.now
  · rintro id workload rfl host estimate next isolated taken
    exact isolated.submit brings taken
  · rintro message - host id next isolated taken
    exact isolated.deliver taken
  · exact isolated

theorem Isolated.dispatches (isolated : datacenter.Isolated) (network : Network)
    (event : Event) :
    ∀ dispatch ∈ (datacenter.handle network event).dispatches,
      dispatch.target = datacenter.id ∧ dispatch.event = .housekeeping := by
  intro dispatch member
  rcases (reacts datacenter network event).mem_dispatches member with sent | own
  · rw [isolated.sent_eq network] at sent
    cases sent
  · exact own

end Datacenter

/-! ## Events of one datacenter -/

namespace EventQueue

variable {α : Type}

theorem insert_of_first {entry : Scheduled α} {pending : List (Scheduled α)}
    (first : ∀ other ∈ pending, entry.time.rank < other.time.rank) :
    insert entry pending = entry :: pending := by
  cases pending with
  | nil => rfl
  | cons next rest => rw [insert_cons, if_pos (first next List.mem_cons_self)]

theorem filter_insert_of_not {entry : Scheduled α} {chosen : Scheduled α → Bool}
    (other : chosen entry = false) (pending : List (Scheduled α)) :
    (insert entry pending).filter chosen = pending.filter chosen := by
  induction pending with
  | nil => simp [insert, other]
  | cons next rest induction =>
      rw [insert_cons]
      split
      · simp [other]
      · simp [List.filter_cons, induction]

/-- The chosen entries of a sorted list keep their order when one is inserted. -/
theorem filter_insert {entry : Scheduled α} {chosen : Scheduled α → Bool}
    (own : chosen entry = true) {pending : List (Scheduled α)}
    (sorted : pending.Pairwise fun earlier later => earlier.time.rank ≤ later.time.rank) :
    (insert entry pending).filter chosen = insert entry (pending.filter chosen) := by
  induction pending with
  | nil => simp [insert, own]
  | cons next rest induction =>
      obtain ⟨least, tail⟩ := List.pairwise_cons.1 sorted
      rw [insert_cons]
      split
      · rename_i sooner
        rw [List.filter_cons_of_pos own, insert_of_first]
        intro other member
        rcases List.mem_cons.1 (List.mem_of_mem_filter member) with same | behind
        · rwa [same]
        · have notBefore := least other behind
          omega
      · rename_i notSooner
        by_cases kept : chosen next = true
        · rw [List.filter_cons_of_pos kept, List.filter_cons_of_pos kept, insert_cons,
            if_neg notSooner, induction tail]
        · rw [List.filter_cons_of_neg kept, List.filter_cons_of_neg kept, induction tail]

/-- Dispatches for others leave the events of one target as they are. -/
theorem filter_dispatch {queue alone : EventQueue Event} {id : Nat} (ordered : queue.Ordered)
    (clock : alone.now = queue.now)
    (pending : alone.pending = queue.pending.filter fun entry => entry.target == id)
    (dispatches : List Dispatch) :
    (alone.dispatch (dispatches.filter fun dispatch => dispatch.target == id)).pending =
      (queue.dispatch dispatches).pending.filter fun entry => entry.target == id := by
  induction dispatches generalizing queue alone with
  | nil => exact pending
  | cons first rest induction =>
      have next := ordered.schedule first.target first.delay first.event
      rw [dispatch_cons]
      by_cases own : first.target = id
      · have sameClock : (alone.schedule first.target first.delay first.event).now =
            (queue.schedule first.target first.delay first.event).now := clock
        rw [List.filter_cons_of_pos (by simpa using own), dispatch_cons]
        apply induction next sameClock
        rw [schedule_pending, schedule_pending, filter_insert (by simpa using own) ordered.sorted,
          pending, dueTime, dueTime, clock]
      · rw [List.filter_cons_of_neg (by simpa using own)]
        apply induction next clock
        rw [schedule_pending, filter_insert_of_not (by simpa using own), pending]

end EventQueue

namespace Simulation

/-- The simulation with one of its datacenters, the events for it, and no others. -/
def only (simulation : Simulation) (id : DatacenterId) : Simulation :=
  { simulation with
    queue :=
      { simulation.queue with
        pending := simulation.queue.pending.filter fun entry => entry.target == id }
    datacenters :=
      match simulation.datacenters.get? id with
      | some datacenter => Table.empty.insert id datacenter
      | none => Table.empty
    completed := simulation.completed.filter fun completion => completion.1 == id }

/-- No workload of the simulation, running or to come, sends anything, and every event has
a datacenter. -/
structure Isolated (simulation : Simulation) : Prop where
  ordered : simulation.queue.Ordered
  named : ∀ id datacenter, simulation.datacenters.get? id = some datacenter →
    datacenter.id = id
  addressed : ∀ entry ∈ simulation.queue.pending,
    ∃ datacenter, simulation.datacenters.get? entry.target = some datacenter
  hosted : ∀ id datacenter, simulation.datacenters.get? id = some datacenter →
    datacenter.Isolated
  coming : ∀ entry ∈ simulation.queue.pending, entry.event.Isolated

/-- What one simulation says of a datacenter is all that another one says. -/
structure Projects (id : DatacenterId) (full alone : Simulation) : Prop where
  pending : alone.queue.pending =
    full.queue.pending.filter fun entry => entry.target == id
  present : alone.datacenters.get? id = full.datacenters.get? id
  completed : alone.completed = full.completed.filter fun completion => completion.1 == id

theorem Isolated.start {simulation : Simulation} (isolated : simulation.Isolated) :
    simulation.start.Isolated := by
  rw [Simulation.start]
  split
  · exact isolated
  · refine ⟨isolated.ordered.dispatch _, isolated.named, ?_, isolated.hosted, ?_⟩
    · intro entry member
      rcases EventQueue.mem_dispatch.1 member with ⟨dispatch, listed, rfl⟩ | old
      · obtain ⟨key, known, rfl⟩ := List.mem_map.1 listed
        exact Table.mem_keys.1 known
      · exact isolated.addressed entry old
    · intro entry member
      rcases EventQueue.mem_dispatch.1 member with ⟨dispatch, listed, rfl⟩ | old
      · obtain ⟨key, known, rfl⟩ := List.mem_map.1 listed
        trivial
      · exact isolated.coming entry old

/-- Whether a run stops depends only on the reaction. -/
theorem Absorbed.same_fault {before after other last : Simulation} {entry next : Scheduled Event}
    {rest waiting : EventQueue Event} {reaction : Reaction Datacenter Unit}
    {fault raised : Option Fault} (absorbed : Absorbed before entry rest reaction fault after)
    (again : Absorbed other next waiting reaction raised last) : fault = raised := by
  rcases absorbed.counted with ⟨fine, calm, -⟩ | ⟨first, failed, worst⟩
  · rcases again.counted with ⟨-, too, -⟩ | ⟨second, refuted, -⟩
    · rw [calm, too]
    · cases fine.symm.trans refuted
  · rcases again.counted with ⟨refuted, -⟩ | ⟨second, same, likewise⟩
    · cases failed.symm.trans refuted
    · cases failed.symm.trans same
      rcases worst with ⟨fatal, stops, -⟩ | ⟨mild, calm, -⟩
      · rcases likewise with ⟨-, too, -⟩ | ⟨mild, -, -⟩
        · rw [stops, too]
        · cases fatal.symm.trans mild
      · rcases likewise with ⟨fatal, -, -⟩ | ⟨-, too, -⟩
        · cases fatal.symm.trans mild
        · rw [calm, too]

section Step

variable {full alone next : Simulation} {registry other : Registry} {limit : Seconds}
  {id : DatacenterId} {fault : Option Fault}

theorem Isolated.step? (isolated : full.Isolated)
    (stepped : full.step? registry limit = some (fault, next)) : next.Isolated := by
  obtain ⟨entry, rest, datacenter, popped, -, found, absorbed⟩ :=
    step?_eq_some isolated.addressed stepped
  obtain ⟨listed, -⟩ := EventQueue.pop?_eq_some.1 popped
  have waits {later : Scheduled Event} (member : later ∈ rest.pending) :
      later ∈ full.queue.pending := listed ▸ List.mem_cons_of_mem _ member
  have first : entry ∈ full.queue.pending := listed ▸ List.mem_cons_self
  have here : datacenter.Isolated := isolated.hosted _ _ found
  let network : Network := { registry := registry, now := entry.time }
  have own := here.dispatches network entry.event
  have presentStill {key : Nat} (present : ∃ datacenter, full.datacenters.get? key = some datacenter) :
      ∃ datacenter, next.datacenters.get? key = some datacenter := by
    rw [absorbed.datacenters, Table.get?_insert]
    split
    · exact ⟨_, rfl⟩
    · exact present
  constructor
  · rw [absorbed.queue]
    exact (isolated.ordered.pop popped).dispatch _
  · intro key changed present
    rcases absorbed.get?_datacenter present with ⟨rfl, rfl⟩ | ⟨-, old⟩
    · exact ((datacenter.reacts network entry.event).id_eq).trans (isolated.named _ _ found)
    · exact isolated.named key changed old
  · intro later member
    rw [absorbed.queue] at member
    rcases EventQueue.mem_dispatch.1 member with ⟨dispatch, sent, rfl⟩ | old
    · have target : dispatch.target = entry.target :=
        (own dispatch sent).1.trans (isolated.named _ _ found)
      exact presentStill ⟨datacenter, (congrArg _ target).trans found⟩
    · exact presentStill (isolated.addressed later (waits old))
  · intro key changed present
    rcases absorbed.get?_datacenter present with ⟨rfl, rfl⟩ | ⟨-, old⟩
    · exact here.handle network (isolated.coming entry first)
    · exact isolated.hosted key changed old
  · intro later member
    rw [absorbed.queue] at member
    rcases EventQueue.mem_dispatch.1 member with ⟨dispatch, sent, rfl⟩ | old
    · change dispatch.event.Isolated
      rw [(own dispatch sent).2]
      trivial
    · exact isolated.coming later (waits old)

/-- A run of the whole simulation that has come to its end has so for each datacenter. -/
theorem Projects.settled (projects : Projects id full alone) (isolated : full.Isolated)
    (settled : full.step? registry limit = none) : alone.step? other limit = none := by
  rw [Simulation.step?]
  split
  · rfl
  · rename_i entry rest popped
    obtain ⟨listed, -⟩ := EventQueue.pop?_eq_some.1 popped
    have member : entry ∈ full.queue.pending := by
      apply List.mem_of_mem_filter
      rw [← projects.pending, listed]
      exact List.mem_cons_self
    rw [if_pos (limit_lt_of_step?_eq_none isolated.ordered settled member)]

/-- An event of another datacenter. -/
theorem Projects.foreign (projects : Projects id full alone) (isolated : full.Isolated)
    {entry : Scheduled Event} {rest : EventQueue Event} {datacenter : Datacenter}
    (popped : full.queue.pop? = some (entry, rest))
    (found : full.datacenters.get? entry.target = some datacenter)
    (absorbed : Absorbed full entry rest
      (datacenter.handle { registry := registry, now := entry.time } entry.event) fault next)
    (notOwn : entry.target ≠ id) : Projects id next alone := by
  obtain ⟨listed, -⟩ := EventQueue.pop?_eq_some.1 popped
  have own := (isolated.hosted _ _ found).dispatches
    { registry := registry, now := entry.time } entry.event
  have same := isolated.named _ _ found
  have none : (datacenter.handle { registry := registry, now := entry.time }
      entry.event).dispatches.filter (fun dispatch => dispatch.target == id) = [] := by
    apply List.filter_eq_nil_iff.2
    intro dispatch member
    simpa [(own dispatch member).1, same] using notOwn
  have later : rest.pending.filter (fun entry => entry.target == id) = alone.queue.pending := by
    rw [projects.pending, listed, List.filter_cons_of_neg (by simpa using notOwn)]
  constructor
  · rw [absorbed.queue, ← EventQueue.filter_dispatch (isolated.ordered.pop popped)
      (rfl : ({ rest with pending := alone.queue.pending } : EventQueue Event).now = rest.now)
      later.symm, none]
    rfl
  · rw [absorbed.datacenters, Table.get?_insert, if_neg (Ne.symm notOwn)]
    exact projects.present
  · rw [absorbed.completed, List.filter_append, projects.completed]
    simp [List.filter_map, Function.comp_def, notOwn]

/-- An event of the datacenter itself is the next one in both queues. -/
theorem Projects.own (projects : Projects id full alone) (isolated : full.Isolated)
    (other : Registry) {entry : Scheduled Event} {rest : EventQueue Event} {datacenter : Datacenter}
    (popped : full.queue.pop? = some (entry, rest)) (due : ¬ limit < entry.time)
    (found : full.datacenters.get? entry.target = some datacenter)
    (absorbed : Absorbed full entry rest
      (datacenter.handle { registry := registry, now := entry.time } entry.event) none next)
    (own : entry.target = id) :
    ∃ moved, alone.step? other limit = some (none, moved) ∧ Projects id next moved := by
  subst own
  obtain ⟨listed, shown⟩ := EventQueue.pop?_eq_some.1 popped
  let waiting : EventQueue Event :=
    { rest with pending := rest.pending.filter fun later => later.target == entry.target }
  have poppedAlone : alone.queue.pop? = some (entry, waiting) := by
    apply EventQueue.pop?_eq_some.2
    exact ⟨by rw [projects.pending, listed, List.filter_cons_of_pos (by simp)], shown⟩
  have addressed : ∀ later ∈ alone.queue.pending,
      ∃ datacenter, alone.datacenters.get? later.target = some datacenter := by
    intro later member
    rw [projects.pending] at member
    have target : later.target = entry.target := by simpa using (List.mem_filter.1 member).2
    exact ⟨datacenter, by rw [target, projects.present, found]⟩
  obtain ⟨⟨raised, moved⟩, stepped⟩ :
      ∃ outcome, alone.step? other limit = some outcome := by
    rw [Simulation.step?, poppedAlone]
    simp only [if_neg due]
    exact ⟨_, rfl⟩
  obtain ⟨_, _, _, poppedThere, -, foundThere, absorbedThere⟩ := step?_eq_some addressed stepped
  cases poppedAlone.symm.trans poppedThere
  cases (projects.present.trans found).symm.trans foundThere
  rw [(isolated.hosted _ _ found).handle_eq other registry] at absorbedThere
  cases absorbed.same_fault absorbedThere
  have sent := (isolated.hosted _ _ found).dispatches
    { registry := registry, now := entry.time } entry.event
  have kept : (datacenter.handle { registry := registry, now := entry.time }
      entry.event).dispatches.filter (fun dispatch => dispatch.target == entry.target) =
        (datacenter.handle { registry := registry, now := entry.time } entry.event).dispatches := by
    apply List.filter_eq_self.2
    intro dispatch member
    simp [(sent dispatch member).1, isolated.named _ _ found]
  refine ⟨moved, stepped, ?_, ?_, ?_⟩
  · rw [absorbed.queue, absorbedThere.queue, ← EventQueue.filter_dispatch
      (isolated.ordered.pop popped) (rfl : waiting.now = rest.now) rfl, kept]
  · rw [absorbed.datacenters, absorbedThere.datacenters, Table.get?_insert_self,
      Table.get?_insert_self]
  · rw [absorbed.completed, absorbedThere.completed, List.filter_append, projects.completed]
    simp [List.filter_map, Function.comp_def]

end Step

/-- More events than a run needs do not change it. -/
theorem continue?_succ {registry : Registry} {limit : Seconds} {bound : Nat}
    {simulation : Simulation} {outcome : Except Fault Seconds × Simulation}
    (ran : continue? registry limit bound simulation = some outcome) :
    continue? registry limit (bound + 1) simulation = some outcome := by
  induction bound generalizing simulation with
  | zero => cases ran
  | succ bound induction =>
      rw [continue?] at ran ⊢
      split at ran
      · exact ran
      · exact ran
      · exact induction ran

section Run

variable {simulation next : Simulation} {registry other : Registry} {limit time : Seconds}
  {bound : Nat} {id : DatacenterId}

theorem projects_only (simulation : Simulation) (id : DatacenterId) :
    Projects id simulation (simulation.only id) := by
  refine ⟨rfl, ?_, rfl⟩
  simp only [only]
  cases simulation.datacenters.get? id with
  | none => rfl
  | some datacenter => exact Table.get?_insert_self _ _ _

theorem keys_only (simulation : Simulation) (id : DatacenterId) :
    (simulation.only id).datacenters.keys =
      simulation.datacenters.keys.filter fun key => key == id := by
  have distinct := simulation.datacenters.nodup_keys
  rw [List.filter_beq]
  simp only [only]
  cases present : simulation.datacenters.get? id with
  | none =>
      have absent : id ∉ simulation.datacenters.keys := by simp [Table.mem_keys, present]
      rw [List.count_eq_zero_of_not_mem absent]
      rfl
  | some datacenter =>
      rw [List.count_eq_one_of_mem distinct (Table.mem_keys.2 ⟨datacenter, present⟩)]
      rfl

theorem projects_start (isolated : simulation.Isolated) :
    Projects id simulation.start (simulation.only id).start := by
  have projects := projects_only simulation id
  have clock : (simulation.only id).queue.now = simulation.queue.now := rfl
  by_cases started : simulation.started = true
  · have startedAlone : (simulation.only id).started = true := started
    rw [start, start, if_pos started, if_pos startedAlone]
    exact projects
  · have notStarted : ¬ (simulation.only id).started = true := started
    rw [start, start, if_neg started, if_neg notStarted]
    refine ⟨?_, projects.present, projects.completed⟩
    rw [← EventQueue.filter_dispatch isolated.ordered clock projects.pending, keys_only,
      List.filter_map]
    rfl

theorem Projects.continue? {full alone : Simulation} (projects : Projects id full alone)
    (isolated : full.Isolated)
    (ran : Simulation.continue? registry limit bound full = some (.ok time, next)) :
    ∃ last ended, Simulation.continue? other limit bound alone = some (.ok last, ended) ∧
      Projects id next ended := by
  induction bound generalizing full alone with
  | zero => cases ran
  | succ bound induction =>
      rw [Simulation.continue?] at ran
      split at ran
      · rename_i settled
        cases ran
        exact ⟨alone.now, alone,
          by rw [Simulation.continue?, projects.settled isolated settled], projects⟩
      · cases ran
      · rename_i moved stepped
        have still := isolated.step? stepped
        obtain ⟨entry, rest, datacenter, popped, due, found, absorbed⟩ :=
          step?_eq_some isolated.addressed stepped
        by_cases own : entry.target = id
        · obtain ⟨along, step, after⟩ :=
            projects.own isolated other popped due found absorbed own
          obtain ⟨last, ended, settled, agrees⟩ := induction after still ran
          exact ⟨last, ended, by rw [Simulation.continue?, step]; exact settled, agrees⟩
        · obtain ⟨last, ended, settled, agrees⟩ :=
            induction (projects.foreign isolated popped found absorbed own) still ran
          exact ⟨last, ended, continue?_succ settled, agrees⟩

/-- A run of isolated workloads that ends well does to each datacenter what a run of this
datacenter alone does. -/
theorem runs_alone (isolated : simulation.Isolated)
    (ran : simulation.runUntil? registry limit bound = some (.ok time, next))
    (id : DatacenterId) (other : Registry) :
    ∃ last alone, (simulation.only id).runUntil? other limit bound = some (.ok last, alone) ∧
      alone.datacenters.get? id = next.datacenters.get? id ∧
      alone.queue.pending = (next.queue.pending.filter fun entry => entry.target == id) ∧
      alone.completed = next.completed.filter fun completion => completion.1 == id := by
  obtain ⟨last, alone, settled, projects⟩ :=
    (projects_start isolated).continue? isolated.start ran
  exact ⟨last, alone, settled, projects.present, projects.pending, projects.completed⟩

end Run

/-- An isolated workload is started on the host of each of two datacenters; a message for
the second one is on its way. -/
def neighbours : Simulation :=
  let datacenter (id : DatacenterId) (interval : Seconds) : Datacenter :=
    (Datacenter.create id interval 0).addHost (Host.create id [1] 0)
  let workload (id : WorkloadId) : Workload :=
    Workload.create id (Placement.unpinned [id] 2) (Engine.fresh id (Engine.relay []))
  let payload : Batch := { size := 1, timestamp := 0, latency := 0, totals := Table.empty }
  let message : Message :=
    { originVertex := 1, originTime := 0, destVertex := 2, destTime := 1, payload := payload }
  let simulation := (empty.addDatacenter (datacenter 1 1)).addDatacenter (datacenter 2 2)
  { simulation with
    queue := simulation.queue.dispatch
      [{ target := 2, delay := 0, event := .submit 2 (workload 2) },
        { target := 1, delay := 0, event := .submit 1 (workload 1) },
        { target := 2, delay := 1, event := .deliver message }] }

theorem isolated_neighbours : neighbours.Isolated := by
  have created {id key : Nat} {interval : Seconds} {host : Host}
      (found : ((Datacenter.create id interval 0).addHost (Host.create id [1] 0)).host? key =
        some host) : host.Isolated := by
    rcases Table.of_get?_insert found with ⟨-, rfl⟩ | ⟨-, absent⟩
    · simp [Host.Isolated, Host.create, Scheduler.create]
    · cases absent
  have datacenters {id : DatacenterId} {datacenter : Datacenter}
      (present : neighbours.datacenters.get? id = some datacenter) :
      datacenter.id = id ∧ datacenter.Isolated := by
    rcases Table.of_get?_insert present with ⟨rfl, rfl⟩ | ⟨-, first⟩
    · exact ⟨rfl, fun _ _ => created⟩
    · rcases Table.of_get?_insert first with ⟨rfl, rfl⟩ | ⟨-, absent⟩
      · exact ⟨rfl, fun _ _ => created⟩
      · cases absent
  have entries {entry : Scheduled Event} (member : entry ∈ neighbours.queue.pending) :
      (entry.target = 1 ∨ entry.target = 2) ∧ entry.event.Isolated := by
    rcases EventQueue.mem_dispatch.1 member with ⟨dispatch, sent, rfl⟩ | absent
    · simp only [List.mem_cons, List.not_mem_nil, or_false] at sent
      rcases sent with rfl | rfl | rfl
      · exact ⟨.inr rfl, rfl⟩
      · exact ⟨.inl rfl, rfl⟩
      · exact ⟨.inr rfl, trivial⟩
    · cases absent
  refine ⟨EventQueue.ordered_empty.dispatch _, fun _ _ present => (datacenters present).1, ?_,
    fun _ _ present => (datacenters present).2, fun _ member => (entries member).2⟩
  intro entry member
  rcases (entries member).1 with target | target <;> rw [target] <;> exact ⟨_, rfl⟩

theorem runs_alone_neighbours :
    neighbours.Isolated ∧
      ∃ next, neighbours.runUntil? Registry.empty 2 20 = some (.ok 2, next) ∧
        ∃ last alone,
          (neighbours.only 1).runUntil? Registry.empty 2 20 = some (.ok last, alone) ∧
          alone.datacenters.get? 1 = next.datacenters.get? 1 ∧
          alone.queue.pending = (next.queue.pending.filter fun entry => entry.target == 1) ∧
          alone.completed = next.completed.filter fun completion => completion.1 == 1 := by
  have result : (neighbours.runUntil? Registry.empty 2 20).map (fun outcome =>
      outcome.1.toOption) = some (some 2) := by
    decide +kernel
  obtain ⟨⟨reached, next⟩, ran, ended⟩ := Option.map_eq_some_iff.1 result
  cases reached with
  | error fault => cases ended
  | ok time =>
      cases ended
      exact ⟨isolated_neighbours, next, ran,
        runs_alone isolated_neighbours ran 1 Registry.empty⟩

end Simulation

end CoSimulation
