import CoSimulation.Proofs.Arrivals.Datacenters
import CoSimulation.Proofs.Arrivals.Queue
import CoSimulation.Proofs.Deployment.History

/-!
# Messages in a simulation of relays

A message that is sent in a pass of a datacenter is due one delay after the slice began
which the pass brings to an end.  So the messages of one datacenter are dispatched in the
order in which they are due, and a datacenter whose slices are not longer than the delay
dispatches nothing that is overdue.  In both cases a message keeps its place among the
others, whatever datacenters the events go to.
-/

namespace CoSimulation

open Binary64

/-- The event submits a relay, or it delivers a message along a known edge. -/
def Event.Relaying (delay : Seconds) (known : VertexId → VertexId → Prop) : Event → Prop
  | submit _ workload => workload.IsRelay delay
  | housekeeping => True
  | deliver message =>
      message.destTime.IsInstant ∧ known message.originVertex message.destVertex

theorem Event.Relaying.mono {delay : Seconds} {known more : VertexId → VertexId → Prop}
    {event : Event} (relaying : event.Relaying delay known)
    (grown : ∀ origin dest, known origin dest → more origin dest) :
    event.Relaying delay more := by
  cases event with
  | submit | housekeeping => exact relaying
  | deliver message => exact ⟨relaying.1, grown _ _ relaying.2⟩

namespace Workload

variable {delay start later : Seconds}

theorem isInstant_stamp (nonneg : 0 ≤ delay) (instant : start.IsInstant) :
    (stamp delay start).IsInstant :=
  (isInstant_ofEngineTime (isInstant_toEngineTime instant)).add nonneg

theorem stamp_mono (nonneg : 0 ≤ delay) (left : start.IsInstant) (right : later.IsInstant)
    (le : start.rank ≤ later.rank) : (stamp delay start).rank ≤ (stamp delay later).rank := by
  apply rank_add_mono_left _ _ nonneg
  · exact ofEngineTime_mono (isInstant_toEngineTime left) (isInstant_toEngineTime right)
      (toEngineTime_mono left right le)
  · exact isInstant_ofEngineTime (isInstant_toEngineTime left)
  · exact isInstant_ofEngineTime (isInstant_toEngineTime right)

end Workload

/-- Nothing is dispatched but in a pass. -/
theorem Datacenter.passFor_of_mem_dispatches {datacenter : Datacenter} (registry : Registry)
    {entry : Scheduled Event} {dispatch : Dispatch}
    (member : dispatch ∈ (datacenter.handle { registry := registry, now := entry.time }
      entry.event).dispatches) : ∃ pass, datacenter.passFor entry = some pass := by
  cases brings : entry.event with
  | submit host workload =>
      rw [passFor, brings]
      exact ⟨_, rfl⟩
  | housekeeping =>
      rw [brings, handle, housekeeping] at member
      rw [passFor, brings]
      split at member
      · cases member
      · rename_i due
        exact ⟨_, if_neg due⟩
  | deliver message =>
      rw [brings, handle] at member
      split at member <;> cases member

namespace Simulation

/-- The workload is on a host of the datacenter. -/
def Hosts (simulation : Simulation) (id : DatacenterId) (workload : Workload) : Prop :=
  ∃ datacenter, simulation.datacenters.get? id = some datacenter ∧ datacenter.Houses workload

/-- A workload on the datacenter sends along the edge. -/
def SendsFrom (simulation : Simulation) (id : DatacenterId) (origin dest : VertexId) : Prop :=
  ∃ workload routes, simulation.Hosts id workload ∧
    workload.engine.respond = Engine.relay routes ∧ (origin, dest) ∈ routes

def Sends (simulation : Simulation) (origin dest : VertexId) : Prop :=
  ∃ id, simulation.SendsFrom id origin dest

def sliceStart (simulation : Simulation) (id : DatacenterId) : Seconds :=
  ((simulation.datacenters.get? id).map Datacenter.sliceStart).getD 0

/-- All workloads are relays, running or to come. -/
structure Relaying (delay : Seconds) (simulation : Simulation) : Prop where
  ordered : simulation.queue.Ordered
  keeps : ∀ id datacenter, simulation.datacenters.get? id = some datacenter →
    datacenter.Keeps simulation.now (Workload.Steady delay simulation.Sends)
  coming : ∀ entry ∈ simulation.queue.pending, entry.event.Relaying delay simulation.Sends

/-- The chosen messages are in order wherever they are, and due up to `bound`. -/
structure Timely (chosen : Selection) (bound : Seconds) (simulation : Simulation) : Prop where
  aligned : simulation.queue.Aligned chosen bound
  orderly : ∀ id workload, simulation.Hosts id workload →
    workload.Orderly chosen chosen (simulation.queue.Carries chosen)
  bounded : ∀ id workload, simulation.Hosts id workload → workload.Bounded chosen bound

/-- The chosen messages are not overdue, and so they are in order with all others. -/
structure Prompt (chosen : Selection) (simulation : Simulation) : Prop where
  prompt : simulation.queue.Prompt chosen
  orderly : ∀ id workload, simulation.Hosts id workload →
    workload.Orderly (fun _ _ _ => True) chosen (simulation.queue.Carries chosen)
  served : ∀ id workload, simulation.Hosts id workload → workload.Served simulation.now

/-- No datacenter but `home` sends along the edges of the chosen messages. -/
def Exclusive (simulation : Simulation) (home : DatacenterId) (chosen : Selection) : Prop :=
  ∀ id time origin dest, simulation.SendsFrom id origin dest → chosen time origin dest →
    id = home

section Dispatched

variable {delay bound : Seconds} {chosen : Selection}
  {simulation after : Simulation} {dispatches : List Dispatch}
  (queue : after.queue = simulation.queue.dispatch dispatches)
  (datacenters : after.datacenters = simulation.datacenters)
include queue datacenters

omit queue in
theorem hosts_of_dispatched : after.Hosts = simulation.Hosts := by
  unfold Hosts
  rw [datacenters]

omit datacenters in
theorem now_of_dispatched : after.now = simulation.now := by
  rw [now, queue, EventQueue.dispatch_now]
  rfl

theorem Relaying.dispatched (relaying : simulation.Relaying delay)
    (more : ∀ dispatch ∈ dispatches, dispatch.event.Relaying delay simulation.Sends) :
    after.Relaying delay := by
  have sends : after.Sends = simulation.Sends := by
    unfold Sends SendsFrom
    rw [hosts_of_dispatched datacenters]
  constructor
  · rw [queue]
    exact relaying.ordered.dispatch dispatches
  · rw [datacenters, sends, now_of_dispatched queue]
    exact relaying.keeps
  · rw [queue, sends]
    intro entry member
    rcases EventQueue.mem_dispatch.1 member with ⟨dispatch, listed, rfl⟩ | old
    · exact more dispatch listed
    · exact relaying.coming entry old

/-- A message that is due at the bound is in order with all others. -/
theorem Timely.dispatched (timely : simulation.Timely chosen bound)
    (ordered : simulation.queue.Ordered)
    (supplies : ∀ dispatch ∈ dispatches,
      EventQueue.Supplies chosen (· = bound) simulation.queue.now dispatch) :
    after.Timely chosen bound := by
  have hosts := hosts_of_dispatched datacenters
  constructor
  · rw [queue]
    exact timely.aligned.dispatch ordered supplies
  · rw [hosts]
    intro id workload hosted
    have bounded := timely.bounded id workload hosted
    apply (timely.orderly id workload hosted).requeue
    intro leaves later carries
    rw [queue] at carries
    rcases carries.of_dispatch supplies with old | ⟨last, -⟩
    · exact .inl old
    · exact .inr ⟨fun message member among => .inl (last ▸ bounded.waiting message member among),
        fun arrival member among => last ▸ bounded.arrived arrival member among⟩
  · rw [hosts]
    exact timely.bounded

/-- A message that is not overdue is in order with what was handed over. -/
theorem Prompt.dispatched (prompt : simulation.Prompt chosen)
    (ordered : simulation.queue.Ordered)
    (supplies : ∀ dispatch ∈ dispatches, EventQueue.Supplies chosen
      (fun due => simulation.queue.now.rank ≤ due.rank) simulation.queue.now dispatch) :
    after.Prompt chosen := by
  have hosts := hosts_of_dispatched datacenters
  have promptly : after.queue.Prompt chosen := by
    rw [queue]
    exact prompt.prompt.dispatch ordered supplies
  constructor
  · exact promptly
  · rw [hosts]
    intro id workload hosted
    apply (prompt.orderly id workload hosted).requeue
    intro leaves later carries
    rcases (queue ▸ carries).of_dispatch supplies with old | ⟨fine, instant⟩
    · exact .inl old
    · refine .inr ⟨fun message _ _ => promptly.trails carries, fun arrival member _ => ?_⟩
      obtain ⟨due, dated, before, time⟩ := prompt.served id workload hosted arrival member
      rw [time]
      exact toEngineTime_mono dated instant (Int.le_of_lt (Int.lt_of_lt_of_le before fine))
  · rw [hosts, now_of_dispatched queue]
    exact prompt.served

end Dispatched

theorem Timely.later {bound next : Seconds} {chosen : Selection}
    {simulation : Simulation} (timely : simulation.Timely chosen bound)
    (instant : bound.IsInstant) (nextInstant : next.IsInstant) (le : bound.rank ≤ next.rank) :
    simulation.Timely chosen next where
  aligned := timely.aligned.later le
  orderly := timely.orderly
  bounded := fun id workload hosted =>
    (timely.bounded id workload hosted).later instant nextInstant le

/-! ## One event -/

/-- What lies between two passes of a datacenter, or before the first one. -/
structure Period where
  datacenter : DatacenterId
  start : Seconds
  finish : Seconds

/-- When a message is due that is sent in the period. -/
def Period.due (delay : Seconds) (period : Period) : Seconds :=
  Workload.stamp delay period.start

/-- What was sent in the period is overdue, as the period took longer than the delay. -/
structure Overdue (delay : Seconds) (simulation : Simulation) (period : Period)
    (time : Milliseconds) (origin dest : VertexId) : Prop where
  overrun : period.due delay < period.finish
  time : time = toEngineTime (period.due delay)
  sends : simulation.SendsFrom period.datacenter origin dest

/-- The period that ends when the next event is handled. -/
def nextPeriod? (simulation : Simulation) : Option Period :=
  simulation.nextPass?.map fun pass =>
    { datacenter := pass.datacenter, start := simulation.sliceStart pass.datacenter
      finish := pass.time }

section Popped

variable {delay : Seconds} {simulation : Simulation} {entry : Scheduled Event}
  {rest : EventQueue Event} {chosen : Selection}

theorem Relaying.due (relaying : simulation.Relaying delay)
    (popped : simulation.queue.pop? = some (entry, rest)) :
    entry.time.IsInstant ∧ simulation.now.rank ≤ entry.time.rank ∧
      entry.event.Relaying delay simulation.Sends := by
  have first : entry ∈ simulation.queue.pending :=
    (EventQueue.pop?_eq_some.1 popped).1 ▸ List.mem_cons_self
  exact ⟨relaying.ordered.instants entry first, relaying.ordered.upcoming entry first,
    relaying.coming entry first⟩

theorem Relaying.dated (relaying : simulation.Relaying delay) {leaves : Seconds}
    {message : Message} (carries : simulation.queue.Carries chosen leaves message) :
    message.destTime.IsInstant := by
  obtain ⟨other, member, -, brings, -⟩ := carries
  have coming := relaying.coming other member
  rw [brings] at coming
  exact coming.1

theorem Relaying.isInstant_sliceStart (relaying : simulation.Relaying delay)
    (id : DatacenterId) : (simulation.sliceStart id).IsInstant := by
  rw [sliceStart]
  cases present : simulation.datacenters.get? id with
  | none => exact isInstant_zero
  | some datacenter => exact (relaying.keeps id datacenter present).instant

theorem Relaying.popped (relaying : simulation.Relaying delay)
    (popped : simulation.queue.pop? = some (entry, rest)) :
    ({ simulation with queue := rest } : Simulation).Relaying delay := by
  obtain ⟨-, forward, -⟩ := relaying.due popped
  obtain ⟨listed, shown⟩ := EventQueue.pop?_eq_some.1 popped
  constructor
  · exact relaying.ordered.pop popped
  · intro id datacenter present
    change datacenter.Keeps rest.now _
    rw [shown]
    exact (relaying.keeps id datacenter present).later forward
  · exact fun later member => relaying.coming later (listed ▸ List.mem_cons_of_mem _ member)

theorem Timely.popped {bound : Seconds} (timely : simulation.Timely chosen bound)
    (ordered : simulation.queue.Ordered)
    (popped : simulation.queue.pop? = some (entry, rest)) :
    ({ simulation with queue := rest } : Simulation).Timely chosen bound where
  aligned := timely.aligned.pop ordered popped
  orderly := fun id workload hosted =>
    (timely.orderly id workload hosted).requeue fun _ _ carries => .inl (carries.of_pop popped)
  bounded := timely.bounded

theorem Prompt.popped (prompt : simulation.Prompt chosen) (ordered : simulation.queue.Ordered)
    (popped : simulation.queue.pop? = some (entry, rest)) :
    ({ simulation with queue := rest } : Simulation).Prompt chosen := by
  obtain ⟨listed, shown⟩ := EventQueue.pop?_eq_some.1 popped
  have forward : simulation.now.rank ≤ rest.now.rank :=
    shown ▸ ordered.upcoming entry (listed ▸ List.mem_cons_self)
  constructor
  · exact prompt.prompt.pop popped
  · exact fun id workload hosted =>
      (prompt.orderly id workload hosted).requeue fun _ _ carries => .inl (carries.of_pop popped)
  · exact fun id workload hosted => (prompt.served id workload hosted).later forward

end Popped

section Absorbed

variable {delay : Seconds} {simulation after : Simulation} {registry : Registry}
  {entry : Scheduled Event} {rest : EventQueue Event} {datacenter : Datacenter}
  {fault : Option Fault} {chosen early late : Selection}

variable (relaying : simulation.Relaying delay)
  (popped : simulation.queue.pop? = some (entry, rest))
  (found : simulation.datacenters.get? entry.target = some datacenter)
include relaying popped found

/-- A property of steady workloads that turns keep holds of all workloads on the datacenter
afterwards, if it holds of new ones and the workloads keep it when a message comes. -/
theorem Relaying.reacted {Good : Workload → Prop} (registry : Registry)
    (good : ∀ workload, datacenter.Houses workload → Good workload)
    (turns : ∀ workload previous after handed, previous.IsInstant →
      previous.rank ≤ entry.time.rank → workload.Turned previous after handed →
        workload.Steady delay simulation.Sends → Good workload → Good after)
    (submits : ∀ workload, workload.IsRelay delay → Good workload)
    (receives : ∀ message, entry.event = .deliver message → ∀ workload,
      workload.Steady delay simulation.Sends → Good workload → Good (workload.receive message)) :
    (datacenter.handle { registry := registry, now := entry.time } entry.event).state.Keeps
      entry.time fun workload => workload.Steady delay simulation.Sends ∧ Good workload := by
  obtain ⟨clock, forward, coming⟩ := relaying.due popped
  have before : datacenter.Keeps entry.time fun workload =>
      workload.Steady delay simulation.Sends ∧ Good workload :=
    ((relaying.keeps _ _ found).later forward).mono fun workload housed steady =>
      ⟨steady, good workload housed⟩
  have reacts := datacenter.reacts { registry := registry, now := entry.time } entry.event
  apply reacts.keeps clock _ _ _ before
  · rintro workload previous next handed instant le turned ⟨steady, fine⟩
    exact ⟨steady.turn turned, turns workload previous next handed instant le turned steady fine⟩
  · intro id workload brought
    rw [brought] at coming
    have relay : workload.IsRelay delay := coming
    refine ⟨?_, Workload.steady_of_isRelay relay, submits workload relay⟩
    obtain ⟨_, _, _, _, _, _, _, rfl⟩ := relay
    rfl
  · rintro message brought workload ⟨steady, fine⟩
    rw [brought] at coming
    exact ⟨steady.receive coming.1 coming.2, receives message brought workload steady fine⟩

/-- What the reaction dispatches is housekeeping, or it is sent by a workload on the datacenter
in the period that ended. -/
theorem Relaying.sent (registry : Registry) {dispatch : Dispatch}
    (member : dispatch ∈ (datacenter.handle { registry := registry, now := entry.time }
      entry.event).dispatches) :
    dispatch.event = .housekeeping ∨ ∃ message, dispatch.event = .deliver message ∧
      simulation.SendsFrom entry.target message.originVertex message.destVertex ∧
        message.destTime = Workload.stamp delay (simulation.sliceStart entry.target) ∧
          dispatch.delay = (message.destTime - entry.time).max 0 := by
  obtain ⟨clock, forward, -⟩ := relaying.due popped
  have start : simulation.sliceStart entry.target = datacenter.sliceStart := by
    rw [sliceStart, found]
    rfl
  have reacts := datacenter.reacts { registry := registry, now := entry.time } entry.event
  rcases reacts.relays clock ((relaying.keeps _ _ found).later forward) member with
    own | ⟨workload, routes, housed, relay, message, brings, route, due, wait⟩
  · exact .inl own
  · refine .inr ⟨message, brings, ?_, start ▸ due, due ▸ wait⟩
    exact ⟨workload, routes, ⟨datacenter, found, housed⟩, relay, route⟩

omit relaying in
/-- What is sent is sent in a pass. -/
theorem nextPeriod?_of_sent (registry : Registry) {dispatch : Dispatch}
    (member : dispatch ∈ (datacenter.handle { registry := registry, now := entry.time }
      entry.event).dispatches) :
    simulation.nextPeriod? = some
      { datacenter := entry.target, start := simulation.sliceStart entry.target
        finish := entry.time } := by
  obtain ⟨pass, made⟩ := Datacenter.passFor_of_mem_dispatches registry member
  obtain ⟨target, time⟩ := Datacenter.target_of_passFor made
  rw [nextPeriod?, nextPass?_eq popped found, made, ← target, ← time]
  rfl

variable (absorbed : Absorbed simulation entry rest
  (datacenter.handle { registry := registry, now := entry.time } entry.event) fault after)
include absorbed

/-- Workloads stay on their datacenters. -/
theorem Relaying.sendsFrom_absorbed {id : DatacenterId} {origin dest : VertexId}
    (sends : simulation.SendsFrom id origin dest) : after.SendsFrom id origin dest := by
  obtain ⟨workload, routes, ⟨owner, present, housed⟩, relay, route⟩ := sends
  by_cases own : id = entry.target
  · subst own
    cases found.symm.trans present
    obtain ⟨clock, forward, -⟩ := relaying.due popped
    have reacts := datacenter.reacts { registry := registry, now := entry.time } entry.event
    obtain ⟨kept, stays, same⟩ :=
      reacts.houses clock ((relaying.keeps _ _ found).later forward) housed
    exact ⟨kept, routes, ⟨_, absorbed.get?_target, stays⟩, same.trans relay, route⟩
  · refine ⟨workload, routes, ⟨owner, ?_, housed⟩, relay, route⟩
    rw [absorbed.datacenters, Table.get?_insert, if_neg own]
    exact present

theorem Relaying.absorb (nonneg : 0 ≤ delay) : after.Relaying delay := by
  obtain ⟨clock, forward, coming⟩ := relaying.due popped
  obtain ⟨listed, shown⟩ := EventQueue.pop?_eq_some.1 popped
  have grown (origin dest : VertexId) (sends : simulation.Sends origin dest) :
      after.Sends origin dest := by
    obtain ⟨id, sends⟩ := sends
    exact ⟨id, relaying.sendsFrom_absorbed popped found absorbed sends⟩
  have time : after.now = entry.time := by
    rw [now, absorbed.queue, EventQueue.dispatch_now, shown]
  constructor
  · rw [absorbed.queue]
    exact (relaying.ordered.pop popped).dispatch _
  · intro id changed present
    rw [time]
    rcases absorbed.get?_datacenter present with ⟨-, rfl⟩ | ⟨-, old⟩
    · have here : (datacenter.handle { registry := registry, now := entry.time }
          entry.event).state.Keeps entry.time fun workload =>
            workload.Steady delay simulation.Sends ∧ True :=
        relaying.reacted popped found registry (by simp) (by simp) (by simp) (by simp)
      exact here.collected.mono fun workload _ steady => steady.1.mono grown
    · exact ((relaying.keeps id changed old).later forward).mono fun workload _ steady =>
        steady.mono grown
  · intro later member
    rw [absorbed.queue] at member
    rcases EventQueue.mem_dispatch.1 member with ⟨dispatch, sent, rfl⟩ | old
    · change dispatch.event.Relaying delay after.Sends
      rcases relaying.sent popped found registry sent with own | ⟨message, brings, sends, due, -⟩
      · rw [own]
        trivial
      · rw [brings]
        refine ⟨?_, grown _ _ ⟨_, sends⟩⟩
        rw [due]
        exact Workload.isInstant_stamp nonneg (relaying.isInstant_sliceStart entry.target)
    · exact (relaying.coming later (listed ▸ List.mem_cons_of_mem _ old)).mono grown

/-- What is dispatched along edges on which only `home` sends comes from a pass of `home`. -/
theorem Relaying.supplied (nonneg : 0 ≤ delay) {home : DatacenterId}
    (exclusive : after.Exclusive home chosen) {dispatch : Dispatch}
    (member : dispatch ∈ (datacenter.handle { registry := registry, now := entry.time }
      entry.event).dispatches) :
    EventQueue.Supplies chosen (· = Workload.stamp delay (simulation.sliceStart home)) entry.time
      dispatch := by
  rintro message ⟨brings, among⟩
  rcases relaying.sent popped found registry member with
    own | ⟨other, brought, sends, due, wait⟩
  · cases own.symm.trans brings
  · cases brought.symm.trans brings
    have here : entry.target = home :=
      exclusive _ _ _ _ (relaying.sendsFrom_absorbed popped found absorbed sends) among
    rw [here] at due
    refine ⟨due, ?_, wait⟩
    rw [due]
    exact Workload.isInstant_stamp nonneg (relaying.isInstant_sliceStart home)

/-- No chosen message is overdue when it is dispatched if none of those is that may be sent in
the period. -/
theorem Relaying.supplied_promptly (nonneg : 0 ≤ delay)
    (within : ∀ period ∈ simulation.nextPeriod?, ∀ time origin dest,
      after.Overdue delay period time origin dest → ¬ chosen time origin dest)
    {dispatch : Dispatch}
    (member : dispatch ∈ (datacenter.handle { registry := registry, now := entry.time }
      entry.event).dispatches) :
    EventQueue.Supplies chosen (fun due => entry.time.rank ≤ due.rank) entry.time dispatch := by
  rintro message ⟨brings, among⟩
  rcases relaying.sent popped found registry member with
    own | ⟨other, brought, sends, due, wait⟩
  · cases own.symm.trans brings
  · cases brought.symm.trans brings
    obtain ⟨clock, -, -⟩ := relaying.due popped
    have instant : message.destTime.IsInstant := by
      rw [due]
      exact Workload.isInstant_stamp nonneg (relaying.isInstant_sliceStart entry.target)
    refine ⟨?_, instant, wait⟩
    apply Int.not_lt.1
    intro overdue
    apply within _ (nextPeriod?_of_sent popped found registry member) _ _ _ _ among
    constructor
    · rw [Period.due, ← due, instant.lt_iff clock]
      exact overdue
    · rw [Period.due, due]
    · exact relaying.sendsFrom_absorbed popped found absorbed sends

theorem Relaying.sliceStart_le_absorbed (home : DatacenterId) :
    (simulation.sliceStart home).rank ≤ (after.sliceStart home).rank := by
  by_cases own : home = entry.target
  · subst own
    obtain ⟨-, forward, -⟩ := relaying.due popped
    have before : simulation.sliceStart entry.target = datacenter.sliceStart := by
      rw [sliceStart, found]
      rfl
    have now : after.sliceStart entry.target = (datacenter.handle
        { registry := registry, now := entry.time } entry.event).state.sliceStart := by
      rw [sliceStart, absorbed.get?_target]
      rfl
    rw [before, now]
    rcases (datacenter.reacts { registry := registry, now := entry.time }
      entry.event).sliceStart_eq with same | passed
    · exact Int.le_of_eq (congrArg rank same.symm)
    · rw [passed]
      exact Int.le_trans (relaying.keeps _ _ found).notLater forward
  · have same : after.sliceStart home = simulation.sliceStart home := by
      rw [sliceStart, absorbed.datacenters, Table.get?_insert, if_neg own, sliceStart]
    exact Int.le_of_eq (congrArg rank same.symm)

/-- What the workloads keep in turns and when messages come, the workloads have afterwards. -/
theorem Relaying.hosted_absorbed {Good : Workload → Prop}
    (good : ∀ id workload, simulation.Hosts id workload → Good workload)
    (turns : ∀ workload previous after handed, previous.IsInstant →
      previous.rank ≤ entry.time.rank → workload.Turned previous after handed →
        workload.Steady delay simulation.Sends → Good workload → Good after)
    (submits : ∀ workload, workload.IsRelay delay → Good workload)
    (receives : ∀ message, entry.event = .deliver message → ∀ workload,
      workload.Steady delay simulation.Sends → Good workload → Good (workload.receive message))
    (id : DatacenterId) (workload : Workload) (hosted : after.Hosts id workload) :
    Good workload := by
  obtain ⟨owner, present, housed⟩ := hosted
  rcases absorbed.get?_datacenter present with ⟨-, rfl⟩ | ⟨-, old⟩
  · have here := relaying.reacted popped found registry
      (fun workload housed => good _ workload ⟨datacenter, found, housed⟩) turns submits receives
    exact (here.good workload housed).2
  · exact good id workload ⟨owner, old, housed⟩

theorem Relaying.orderly_absorbed
    (orderly : ∀ id workload, simulation.Hosts id workload →
      workload.Orderly early late (simulation.queue.Carries late))
    (trails : ∀ message, entry.event.Bears early message → ∀ leaves later,
      simulation.queue.Carries late leaves later → later.Trails leaves message.destTime) :
    ∀ id workload, after.Hosts id workload →
      workload.Orderly early late (simulation.queue.Carries late) := by
  have first : entry ∈ simulation.queue.pending :=
    (EventQueue.pop?_eq_some.1 popped).1 ▸ List.mem_cons_self
  apply relaying.hosted_absorbed popped found absorbed orderly
  · intro workload previous next handed instant le turned steady fine
    exact fine.turn steady turned instant (fun _ _ => relaying.dated) fun _ _ carries =>
      Int.le_trans le (relaying.ordered.le_of_carries popped carries)
  · exact fun workload => Workload.orderly_of_isRelay
  · intro message brings workload _ fine
    apply fine.receive
    · exact fun among => trails message ⟨brings, among⟩
    · exact fun among arrival arrived arrivedAmong =>
        fine.arrived_queued arrival arrived arrivedAmong entry.time message
          ⟨entry, first, rfl, brings, among⟩

theorem Relaying.timely_absorbed {bound : Seconds} (bounded : bound.IsInstant)
    (timely : simulation.Timely chosen bound) :
    ({ after with queue := simulation.queue } : Simulation).Timely chosen bound := by
  have first : entry ∈ simulation.queue.pending :=
    (EventQueue.pop?_eq_some.1 popped).1 ▸ List.mem_cons_self
  constructor
  · exact timely.aligned
  · apply relaying.orderly_absorbed popped found absorbed timely.orderly
    exact fun message bears _ _ => timely.aligned.trails_of_pop popped bears
  · apply relaying.hosted_absorbed popped found absorbed timely.bounded
    · intro workload previous next handed instant le turned steady fine
      exact fine.turn steady turned bounded
    · exact fun workload => Workload.bounded_of_isRelay
    · intro message brings workload _ fine
      exact fine.receive fun among => timely.aligned.limited entry first message ⟨brings, among⟩

theorem Relaying.prompt_absorbed (prompt : simulation.Prompt chosen) :
    ({ after with queue := rest } : Simulation).Prompt chosen := by
  obtain ⟨-, forward, -⟩ := relaying.due popped
  obtain ⟨-, shown⟩ := EventQueue.pop?_eq_some.1 popped
  constructor
  · exact prompt.prompt.pop popped
  · intro id workload hosted
    have orderly := relaying.orderly_absorbed popped found absorbed prompt.orderly
      (fun _ _ _ _ => prompt.prompt.trails) id workload hosted
    exact orderly.requeue fun _ _ carries => .inl (carries.of_pop popped)
  · have before (id : DatacenterId) (workload : Workload)
        (hosted : simulation.Hosts id workload) : workload.Served entry.time :=
      (prompt.served id workload hosted).later forward
    change ∀ id workload, after.Hosts id workload → workload.Served rest.now
    rw [shown]
    apply relaying.hosted_absorbed popped found absorbed before
    · exact fun _ _ _ _ instant le turned steady served =>
        served.turn steady turned instant le
    · exact fun workload => Workload.served_of_isRelay
    · exact fun message _ workload _ served => served.receive message

theorem Relaying.timely_absorb (nonneg : 0 ≤ delay) {home : DatacenterId}
    (exclusive : after.Exclusive home chosen)
    (timely : simulation.Timely chosen (Workload.stamp delay (simulation.sliceStart home))) :
    after.Timely chosen (Workload.stamp delay (after.sliceStart home)) := by
  obtain ⟨-, shown⟩ := EventQueue.pop?_eq_some.1 popped
  have start := relaying.isInstant_sliceStart home
  have next := (relaying.absorb popped found absorbed nonneg).isInstant_sliceStart home
  have bounded := Workload.isInstant_stamp nonneg start
  have reacted : ({ after with queue := rest } : Simulation).Timely chosen _ :=
    (relaying.timely_absorbed popped found absorbed bounded timely).popped relaying.ordered popped
  have queue : after.queue = ({ after with queue := rest } : Simulation).queue.dispatch _ :=
    absorbed.queue
  have sent : after.Timely chosen (Workload.stamp delay (simulation.sliceStart home)) := by
    apply reacted.dispatched queue rfl (relaying.ordered.pop popped)
    intro dispatch member
    change EventQueue.Supplies chosen _ rest.now dispatch
    rw [shown]
    exact relaying.supplied popped found absorbed nonneg exclusive member
  exact sent.later bounded (Workload.isInstant_stamp nonneg next)
    (Workload.stamp_mono nonneg start next
      (relaying.sliceStart_le_absorbed popped found absorbed home))

theorem Relaying.prompt_absorb (nonneg : 0 ≤ delay)
    (within : ∀ period ∈ simulation.nextPeriod?, ∀ time origin dest,
      after.Overdue delay period time origin dest → ¬ chosen time origin dest)
    (prompt : simulation.Prompt chosen) : after.Prompt chosen := by
  obtain ⟨-, shown⟩ := EventQueue.pop?_eq_some.1 popped
  have reacted := relaying.prompt_absorbed popped found absorbed prompt
  have queue : after.queue = ({ after with queue := rest } : Simulation).queue.dispatch _ :=
    absorbed.queue
  apply reacted.dispatched queue rfl (relaying.ordered.pop popped)
  intro dispatch member
  change EventQueue.Supplies chosen (fun due => rest.now.rank ≤ due.rank) rest.now dispatch
  rw [shown]
  exact relaying.supplied_promptly popped found absorbed nonneg within member

end Absorbed

end Simulation

end CoSimulation
