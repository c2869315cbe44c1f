import CoSimulation.Proofs.Arrivals.Datacenters
import CoSimulation.Proofs.Housekeeping.Awaiting
import CoSimulation.Proofs.Runs.Spacing

/-!
# Runs that repeat one time

The later it is, the coarser is the clock, and in the end a delay makes no difference to it.
A pass at a time that swallows the interval asks for housekeeping at that same time, and if
the time swallows the gap as well, this housekeeping is not dropped but leads to the next
pass.  A workload that ends at such a time leads a run there, and the run never leaves it.

`returns_or_repeats` states this next to the condition under which every run comes to its
end.
-/

namespace CoSimulation

open Binary64

/-! ## Workloads that send nothing -/

theorem Network.sendAll_of_unsent {network : Network} {delay : Seconds} {records : List Record}
    (unsent : ∀ record ∈ records, record.isSent = false) :
    network.sendAll delay records = ([], none) := by
  induction records with
  | nil => rfl
  | cons record records induction =>
      have rest := induction fun later member => unsent later (List.mem_cons_of_mem _ member)
      cases record with
      | sent => cases unsent _ List.mem_cons_self
      | produced | processed | consumed | received => exact rest

/-- A relay without routes sends nothing. -/
theorem Engine.isSent_of_relay_nil {calls : List Call} {record : Record}
    (reported : record ∈ Engine.relay [] calls) : record.isSent = false := by
  unfold Engine.relay at reported
  split at reported
  · simp only [List.map_nil, List.append_nil, List.mem_filterMap] at reported
    obtain ⟨call, -, received⟩ := reported
    split at received
    · cases received
      rfl
    · cases received
  · cases reported

namespace Workload

variable {workload : Workload}

/-- The engine never reports that a batch left for another host. -/
def Silent (workload : Workload) : Prop :=
  ∀ calls, ∀ record ∈ workload.engine.respond calls, record.isSent = false

theorem forward_of_unsent {records : List Record}
    (unsent : ∀ record ∈ records, record.isSent = false) (network : Network) :
    (workload.forward network records).result = .ok 0 := by
  rw [forward]
  split
  · rfl
  · rw [Network.sendAll_of_unsent unsent]
    rfl

theorem Silent.turn_fault (silent : workload.Silent) {network : Network}
    {time previous : Seconds} {capacity : Binary64} (running : workload.finished = false)
    (monotone : ¬ time < previous) :
    (workload.turn network time previous capacity).fault = none := by
  obtain ⟨budget, earlier, reported⟩ :=
    workload.run_reports (workload.sliceOf time previous capacity)
  have unsent : ∀ record ∈ (workload.run (workload.sliceOf time previous capacity)).1,
      record.isSent = false := by
    rw [reported]
    exact silent _
  rw [turn_of_running running monotone]
  simp only [forward_of_unsent unsent network]

end Workload

/-- The workload that an event brings sends nothing. -/
def Event.Silent : Event → Prop
  | submit _ workload => workload.Silent
  | housekeeping | deliver _ => True

namespace Datacenter

variable {datacenter : Datacenter} {network : Network} {event : Event}
  {reaction : Reaction Datacenter Unit} {now : Seconds}

/-- No workload on the hosts sends anything. -/
def Silent (datacenter : Datacenter) : Prop :=
  ∀ id host, datacenter.host? id = some host →
    ∀ workload ∈ host.scheduler.workloads, workload.Silent

section Handled

variable (silent : datacenter.Silent) (lawful : datacenter.Lawful now)
  (clock : network.now.IsInstant) (forward : now.rank ≤ network.now.rank)
include silent lawful clock forward

theorem Silent.pass_faults : (datacenter.pass network).2.2 = [] := by
  apply List.eq_nil_iff_forall_not_mem.2
  intro fault raised
  obtain ⟨host, listed, failed⟩ := (mem_pass_faults datacenter network).1 raised
  obtain ⟨id, found⟩ := Table.mem_values.1 listed
  have here : host.Lawful network.now := (lawful.hosts id host found).later forward
  obtain ⟨turn, taken, reported⟩ := List.mem_filterMap.1 (mem_of_reportWorst failed)
  obtain ⟨workload, active, rfl⟩ := List.mem_map.1 taken
  have smooth : (workload.turn network network.now host.scheduler.previous
      (host.scheduler.capacity host.mips)).fault = none :=
    (silent id host found workload (List.mem_append_left _ active)).turn_fault
      (here.formed.running workload active) (here.monotone clock)
  cases smooth.symm.trans reported

/-- Where nothing is sent no fault stops a run. -/
theorem Handled.isFatal_of_silent (handled : datacenter.Handled network event reaction)
    {fault : Fault} (failed : reaction.result = .error fault) : fault.isFatal = false := by
  have faultless := silent.pass_faults lawful clock forward
  cases handled with
  | skipped | delivered => cases failed
  | passed | accepted =>
      simp only [faultless] at failed
      cases failed
  | refused =>
      cases failed
      rfl

end Handled

theorem Silent.handle (silent : datacenter.Silent) (lawful : datacenter.Lawful now)
    (clock : network.now.IsInstant) (forward : now.rank ≤ network.now.rank)
    (brings : event.Silent)
    (running : ∀ id workload, event = .submit id workload → workload.finished = false) :
    (datacenter.handle network event).state.Silent := by
  intro id host found
  refine ((datacenter.reacts network event).forall_workload clock ?_ ?_ ?_ ?_ id host found).2
  · rintro workload previous after handed - - turned silent
    rw [Workload.Silent, turned.respond]
    exact silent
  · rintro id workload rfl
    exact ⟨running id workload rfl, brings⟩
  · rintro message - workload silent
    rw [Workload.receive]
    split <;> exact silent
  · exact fun id host found =>
      ⟨(lawful.hosts id host found).later forward, silent id host found⟩

end Datacenter

namespace Simulation

/-- No workload sends anything, be it on a host or to come. -/
structure Silent (simulation : Simulation) : Prop where
  hosted : ∀ id datacenter, simulation.datacenters.get? id = some datacenter →
    datacenter.Silent
  coming : ∀ entry ∈ simulation.queue.pending, entry.event.Silent

theorem Silent.start {simulation : Simulation} (silent : simulation.Silent) :
    simulation.start.Silent := by
  rw [Simulation.start]
  split
  · exact silent
  · refine ⟨silent.hosted, fun entry waits => ?_⟩
    rcases EventQueue.mem_dispatch.1 waits with ⟨dispatch, asked, rfl⟩ | old
    · obtain ⟨id, -, rfl⟩ := List.mem_map.1 asked
      trivial
    · exact silent.coming entry old

end Simulation

namespace Deployment

variable {deployment : Deployment} {limit interval gap time : Seconds} {fault : Option Fault}
  {next : Simulation} {id : DatacenterId}

theorem Consistent.silent_ran (consistent : deployment.Consistent)
    (silent : deployment.simulation.Silent)
    (stepped : deployment.simulation.step? deployment.broker.registry limit =
      some (fault, next)) : fault = none ∧ next.Silent := by
  obtain ⟨entry, rest, datacenter, popped, -, found, absorbed⟩ :=
    Simulation.step?_eq_some consistent.targets stepped
  obtain ⟨listed, -⟩ := EventQueue.pop?_eq_some.1 popped
  have first : entry ∈ deployment.simulation.queue.pending := listed ▸ List.mem_cons_self
  have clock := consistent.ordered.instants entry first
  have forward : deployment.simulation.now.rank ≤ entry.time.rank :=
    consistent.ordered.upcoming entry first
  have lawful := consistent.lawful _ _ found
  have quiet := silent.hosted _ _ found
  have handled := consistent.handled popped found entry.time
  refine ⟨?_, ?_, ?_⟩
  · rcases absorbed.counted with ⟨-, none, -⟩ | ⟨raised, failed, ⟨fatal, -⟩ | ⟨-, none, -⟩⟩
    · exact none
    · cases fatal.symm.trans (handled.isFatal_of_silent quiet lawful clock forward failed)
    · exact none
  · intro other owner present
    rcases absorbed.get?_datacenter present with ⟨-, rfl⟩ | ⟨-, old⟩
    · refine quiet.handle lawful clock forward (silent.coming entry first) ?_
      intro id workload brings
      exact (consistent.submissions entry first id workload brings).2.running
    · exact silent.hosted other owner old
  · intro other waits
    rw [absorbed.queue] at waits
    rcases EventQueue.mem_dispatch.1 waits with ⟨dispatch, asked, rfl⟩ | old
    · change dispatch.event.Silent
      rcases handled.dispatches dispatch asked with ⟨_, _, event, -⟩ | ⟨-, event⟩ <;>
        rw [event] <;> trivial
    · exact silent.coming other (listed ▸ List.mem_cons_of_mem _ old)

end Deployment

/-! ## Times that the clock does not leave -/

/-- Neither the interval nor the gap makes a difference at this time. -/
structure Swallows (time interval gap : Seconds) : Prop where
  instant : time.IsInstant
  finite : time.isFinite = true
  interval : time + interval = time
  gap : time + gap = time

/-- Zero swallows no delay. -/
theorem Swallows.pos {time interval gap : Seconds} (swallows : Swallows time interval gap)
    (positive : 0 < interval) : 0 < time := by
  rw [isInstant_zero.lt_iff swallows.instant, rank_zero]
  rcases Int.lt_or_eq_of_le swallows.instant.rank_nonneg with later | start
  · exact later
  · have zero : time = 0 :=
      eq_of_rank_eq (start.symm.trans rank_zero.symm)
    have nothing := swallows.interval
    rw [zero, zero_add (isInstant_of_pos positive)] at nothing
    rw [nothing] at positive
    exact absurd (lt_iff.1 positive).2.2 (Int.lt_irrefl _)

namespace Datacenter

variable {datacenter : Datacenter} {network : Network} {time : Seconds}

/-- At a time that swallows the gap nothing comes too soon. -/
theorem Punctual.comesTooSoon (punctual : datacenter.Punctual time) (instant : time.IsInstant)
    (positive : 0 < datacenter.gap) (swallowed : time + datacenter.gap = time) :
    datacenter.comesTooSoon time = false := by
  rw [Datacenter.comesTooSoon]
  cases passed : datacenter.lastPass with
  | none => rfl
  | some last =>
      obtain ⟨past, earlier⟩ := punctual last passed
      have nonneg := le_of_lt positive
      have order := rank_add_mono_left past instant nonneg earlier
      rw [swallowed] at order
      simp only [decide_eq_false_iff_not]
      rw [instant.lt_iff (past.add nonneg)]
      omega

/-- An accepted workload has housekeeping asked for at its end. -/
theorem Handled.housekeeping_at_end {host : HostId} {workload : Workload}
    {reaction : Reaction Datacenter Unit}
    (handled : datacenter.Handled network (.submit host workload) reaction)
    (lasts : 0 < workload.duration) (finite : workload.duration.isFinite = true) :
    datacenter.housekeepingIn workload.duration ∈ reaction.dispatches := by
  cases handled with
  | accepted found taken =>
      obtain ⟨-, rfl, -⟩ := Scheduler.submit_eq_ok taken
      apply List.mem_append_right
      rw [housekeepingAtEnd, if_pos ⟨lasts, finite⟩]
      exact List.mem_cons_self

end Datacenter

namespace EventQueue

/-- Housekeeping of the datacenter is to come at the time, or a submission is whose workload
ends then. -/
def Leads (queue : EventQueue Event) (id : DatacenterId) (time : Seconds) : Prop :=
  queue.Awaits id time ∨
    ∃ entry ∈ queue.pending, ∃ host workload, entry.target = id ∧
      entry.event = .submit host workload ∧ 0 < workload.duration ∧
        workload.duration.isFinite = true ∧ entry.time + workload.duration = time

theorem Leads.dispatch {queue : EventQueue Event} {id : DatacenterId} {time : Seconds}
    (leads : queue.Leads id time) (dispatches : List Dispatch) :
    (queue.dispatch dispatches).Leads id time := by
  rcases leads with awaits | ⟨entry, waits, brought⟩
  · exact .inl (awaits.dispatch dispatches)
  · exact .inr ⟨entry, mem_dispatch.2 (.inr waits), brought⟩

/-- What leads to a time is due up to it. -/
theorem Leads.due {queue : EventQueue Event} {id : DatacenterId} {time : Seconds}
    (leads : queue.Leads id time) (ordered : queue.Ordered) :
    ∃ entry ∈ queue.pending, entry.time.rank ≤ time.rank := by
  rcases leads with awaits | ⟨entry, waits, host, workload, -, -, lasts, -, rfl⟩
  · exact ⟨_, awaits, Int.le_refl _⟩
  · exact ⟨entry, waits, rank_le_add (ordered.instants entry waits) (le_of_lt lasts)⟩

theorem Leads.start {simulation : Simulation} {id : DatacenterId} {time : Seconds}
    (leads : simulation.queue.Leads id time) : simulation.start.queue.Leads id time := by
  rw [Simulation.start]
  split
  · exact leads
  · exact leads.dispatch _

end EventQueue

namespace Deployment

variable {deployment : Deployment} {limit interval gap time : Seconds} {fault : Option Fault}
  {next : Simulation} {id : DatacenterId}

/-- Once something leads to a time that swallows interval and gap, something always does. -/
theorem Consistent.leads_ran (consistent : deployment.Consistent)
    (punctual : deployment.simulation.Punctual)
    (timed : deployment.simulation.Timed interval gap) (positive : 0 < interval)
    (apart : 0 < gap) (swallows : Swallows time interval gap)
    (stepped : deployment.simulation.step? deployment.broker.registry limit =
      some (fault, next))
    (leads : deployment.simulation.queue.Leads id time) : next.queue.Leads id time := by
  obtain ⟨entry, rest, datacenter, reaction, popped, -, found, handled, absorbed⟩ :=
    consistent.step? stepped
  obtain ⟨listed, shown⟩ := EventQueue.pop?_eq_some.1 popped
  have first : entry ∈ deployment.simulation.queue.pending := listed ▸ List.mem_cons_self
  obtain ⟨period, pause⟩ := timed _ _ found
  have named : datacenter.id = entry.target := consistent.named _ _ found
  rw [absorbed.queue]
  rcases leads with awaits | ⟨coming, waits, host, workload, addressed, brings, lasts, finite, ends⟩
  · rcases awaits.pop popped with ⟨rfl, rfl, event⟩ | later
    · left
      have late : datacenter.comesTooSoon entry.time = false :=
        ((punctual _ _ found).later (consistent.ordered.upcoming entry first)).comesTooSoon
          swallows.instant (pause ▸ apart) (pause ▸ swallows.gap)
      rcases handled.paced with ⟨-, soon⟩ | ⟨-, asked⟩
      · cases (soon event).symm.trans late
      · rw [Datacenter.housekeepingIn, named, period] at asked
        have again : (rest.dispatch reaction.dispatches).Awaits entry.target
            (rest.dueTime interval) := EventQueue.awaits_dispatch asked
        rwa [EventQueue.dueTime_of_pos positive, shown, swallows.interval] at again
    · exact .inl (later.dispatch _)
  · rw [listed] at waits
    rcases List.mem_cons.1 waits with rfl | later
    · left
      rw [brings] at handled
      have asked := handled.housekeeping_at_end lasts finite
      rw [Datacenter.housekeepingIn, named, addressed] at asked
      have atEnd : (rest.dispatch reaction.dispatches).Awaits id
          (rest.dueTime workload.duration) := EventQueue.awaits_dispatch asked
      rwa [EventQueue.dueTime_of_pos lasts, shown, ends] at atEnd
    · apply EventQueue.Leads.dispatch
      exact .inr ⟨coming, later, host, workload, addressed, brings, lasts, finite, ends⟩

/-- What keeps a run from coming to its end. -/
structure Repeats (deployment : Deployment) (id : DatacenterId)
    (time interval gap : Seconds) : Prop where
  consistent : deployment.Consistent
  punctual : deployment.simulation.Punctual
  timed : deployment.simulation.Timed interval gap
  silent : deployment.simulation.Silent
  leads : deployment.simulation.queue.Leads id time

section Repeat

variable (repeats : deployment.Repeats id time interval gap) (positive : 0 < interval)
  (apart : 0 < gap) (swallows : Swallows time interval gap)
include repeats positive apart swallows

theorem Repeats.ran (stepped : deployment.simulation.step? deployment.broker.registry limit =
      some (fault, next)) :
    fault = none ∧ Repeats { deployment with simulation := next } id time interval gap := by
  obtain ⟨smooth, silent⟩ := repeats.consistent.silent_ran repeats.silent stepped
  refine ⟨smooth, ?_, ?_, ?_, silent, ?_⟩
  · exact repeats.consistent.ran stepped
  · exact repeats.consistent.punctual_ran repeats.punctual stepped
  · exact repeats.consistent.timed_ran repeats.timed stepped
  · exact repeats.consistent.leads_ran repeats.punctual repeats.timed positive apart swallows
      stepped repeats.leads

/-- However many events a run may handle, there is one more that is due. -/
theorem Repeats.continue?_eq_none (early : time ≤ limit) (bound : Nat) :
    Simulation.continue? deployment.broker.registry limit bound deployment.simulation =
      none := by
  induction bound generalizing deployment with
  | zero => rfl
  | succ bound induction =>
      rw [Simulation.continue?]
      cases stepped : deployment.simulation.step? deployment.broker.registry limit with
      | none =>
          have ordered := repeats.consistent.ordered
          obtain ⟨entry, waits, due⟩ := repeats.leads.due ordered
          obtain ⟨-, -, beyond⟩ :=
            lt_iff.1 (Simulation.limit_lt_of_step?_eq_none ordered stepped waits)
          obtain ⟨-, -, inside⟩ := le_iff.1 early
          rw [(ordered.instants entry waits).position_eq] at beyond
          rw [swallows.instant.position_eq] at inside
          omega
      | some result =>
          obtain ⟨fault, next⟩ := result
          obtain ⟨rfl, still⟩ := repeats.ran positive apart swallows stepped
          exact induction still

end Repeat

/-! ## A session that never returns -/

namespace Assembled

variable {configuration : Configuration} (assembled : Assembled configuration deployment)
  {settings : DatacenterSettings} (member : settings ∈ configuration.datacenters)
  {host : HostSettings} (listed : host ∈ settings.hosts)
  {placement : Placement} (pinned : placement.host = some host.id)
include assembled member listed pinned

/-- The first workload is on its way once it is submitted, and nothing else is. -/
theorem queue_after_submit (id : WorkloadId) (label : Nat) (respond : List Call → List Record) :
    let submitted := (deployment.after [.queue id placement label respond, .submit]).simulation
    submitted.datacenters = deployment.simulation.datacenters ∧
      submitted.queue = EventQueue.empty.dispatch
        [{ target := settings.id, delay := 0
           event := .submit host.id
             (deployment.workload id placement (Engine.fresh label respond)) }] := by
  obtain ⟨owned, known⟩ := assembled.owns_host member listed
  have considered : (Broker.consider deployment.simulation.owns
      { deployment.broker with pending := [] }
      (deployment.workload id placement (Engine.fresh label respond))).2 =
        [{ target := settings.id, delay := 0
           event := .submit host.id
             (deployment.workload id placement (Engine.fresh label respond)) }] :=
    Broker.consider_of_vacant assembled.submitted pinned known owned assembled.vertices
  refine ⟨rfl, ?_⟩
  change deployment.simulation.queue.dispatch
    (Broker.considerAll deployment.simulation.owns { deployment.broker with pending := [] }
      (deployment.broker.pending ++
        [deployment.workload id placement (Engine.fresh label respond)])).2 = _
  rw [assembled.queue, assembled.pending, List.nil_append, Broker.considerAll]
  simp only [considered]
  rfl

theorem repeats_after_submit (positive : 0 < Binary64.ofNat placement.duration)
    (finite : (Binary64.ofNat placement.duration).isFinite = true) (id : WorkloadId)
    (label : Nat) {respond : List Call → List Record}
    (silent : ∀ calls, ∀ record ∈ respond calls, record.isSent = false) :
    let submitted := deployment.after [.queue id placement label respond, .submit]
    Repeats { submitted with simulation := submitted.simulation.start } settings.id
      (Binary64.ofNat placement.duration) configuration.run.interval configuration.run.gap := by
  intro submitted
  obtain ⟨datacenters, queue⟩ :=
    assembled.queue_after_submit member listed pinned id label respond
  let workload := deployment.workload id placement (Engine.fresh label respond)
  have ends : workload.duration = Binary64.ofNat placement.duration := rfl
  have only (entry : Scheduled Event) : entry ∈ submitted.simulation.queue.pending ↔
      entry = { time := 0, target := settings.id, event := .submit host.id workload } := by
    have clock : (EventQueue.empty : EventQueue Event).dueTime 0 = 0 :=
      EventQueue.dueTime_zero isInstant_zero
    have nothing : entry ∉ (EventQueue.empty : EventQueue Event).pending := List.not_mem_nil
    simp only [submitted, queue, EventQueue.mem_dispatch, List.mem_singleton, exists_eq_left,
      EventQueue.entryOf, clock, nothing, or_false]
    exact eq_comm
  constructor
  · exact (assembled.consistent_after _).start
  · exact Simulation.punctual_start (assembled.punctual_after _)
  · exact Simulation.timed_start (assembled.timed (assembled.layout_after _))
  · apply Simulation.Silent.start
    constructor
    · intro other datacenter found place owner present
      rw [datacenters] at found
      obtain ⟨-, mips, rfl⟩ := assembled.of_host? found present
      exact fun _ never => absurd never List.not_mem_nil
    · intro entry waits
      rw [(only entry).1 waits]
      exact silent
  · apply EventQueue.Leads.start
    have instant : (Binary64.ofNat placement.duration).IsInstant := isInstant_of_pos positive
    refine .inr ⟨_, (only _).2 rfl, host.id, workload, rfl, rfl, ?_⟩
    rw [ends]
    exact ⟨positive, finite, Binary64.zero_add instant⟩

end Assembled

/-- If up to its limit no time swallows the gap, a run comes to its end, whatever was done
before.  But a silent workload that ends at a time up to the limit which swallows both the
interval and the gap keeps a run from ever coming to its end. -/
theorem returns_or_repeats {configuration : Configuration} {deployment : Deployment}
    (built : configuration.build = .ok deployment) (limit : Seconds) :
    (Spaced configuration.run.gap limit → ∀ operations, ∃ bound outcome,
      (deployment.after operations).runUntil? limit bound = some outcome) ∧
    ∀ settings ∈ configuration.datacenters, ∀ host ∈ settings.hosts, ∀ placement : Placement,
      placement.host = some host.id → Binary64.ofNat placement.duration ≤ limit →
      Swallows (Binary64.ofNat placement.duration) configuration.run.interval
        configuration.run.gap →
      ∀ id label respond, (∀ calls, ∀ record ∈ respond calls, record.isSent = false) →
        ∀ bound, (deployment.after [.queue id placement label respond, .submit]).runUntil?
          limit bound = none := by
  have assembled := assembled_of_build built
  refine ⟨fun spaced operations => assembled.returns operations spaced, ?_⟩
  intro settings member host listed placement pinned early swallows id label respond silent bound
  obtain ⟨positive, apart, -⟩ := Configuration.validate_eq_ok assembled.valid
  have repeats := assembled.repeats_after_submit member listed pinned
    (swallows.pos positive) swallows.finite id label silent
  rw [runUntil?, Simulation.runUntil?]
  rw [repeats.continue?_eq_none positive apart swallows early bound]
  rfl

/-- Datacenters whose interval and gap are too short for the clock to show after a second. -/
def fleetingConfiguration : Configuration :=
  { Configuration.paired with run := { interval := 1e-17, gap := 1e-16 } }

/-- A second on the first host. -/
def secondOnHost : Placement := { host := some 1, vertices := Table.empty, duration := 1 }

theorem returns_or_repeats_fleeting :
    let submitted := fleetingConfiguration.assemble.after
      [.queue 1 secondOnHost 0 (Engine.relay []), .submit]
    fleetingConfiguration.build = .ok fleetingConfiguration.assemble ∧
      Spaced fleetingConfiguration.run.gap 0.25 ∧
      Swallows 1 fleetingConfiguration.run.interval fleetingConfiguration.run.gap ∧
      (∃ bound outcome, submitted.runUntil? 0.25 bound = some outcome) ∧
      ∀ bound, submitted.runUntil? 1 bound = none := by
  have built := Configuration.build_of_valid
    (show fleetingConfiguration.validate = .ok () by decide +kernel)
  have spaced : Spaced fleetingConfiguration.run.gap 0.25 :=
    spaced_of_step (by decide +kernel) (isInstant_of_pos (by decide +kernel))
      (by decide +kernel) (by decide +kernel)
  have swallows : Swallows 1 fleetingConfiguration.run.interval fleetingConfiguration.run.gap :=
    ⟨isInstant_of_pos (by decide +kernel), by decide +kernel, by decide +kernel, by decide +kernel⟩
  refine ⟨built, spaced, swallows, (returns_or_repeats built 0.25).1 spaced _, ?_⟩
  refine (returns_or_repeats built 1).2 _ List.mem_cons_self _ List.mem_cons_self secondOnHost
    rfl (by decide +kernel) swallows 1 0 (Engine.relay []) ?_
  exact fun calls record => Engine.isSent_of_relay_nil

end Deployment

end CoSimulation
