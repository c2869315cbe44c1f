import CoSimulation.Proofs.Deployment.Assembly

/-!
# Housekeeping that is awaited

A pass asks for housekeeping one interval later.  Housekeeping that comes sooner than the
gap after a pass is dropped and asks for nothing, so what keeps a datacenter going is the
housekeeping one interval after its last pass.  If the gap is at most the interval, that
one is never dropped, and some housekeeping is always to come.
-/

namespace CoSimulation

open Binary64

namespace EventQueue

/-- Housekeeping of a datacenter is to come at a time. -/
def Awaits (queue : EventQueue Event) (id : DatacenterId) (time : Seconds) : Prop :=
  { time := time, target := id, event := .housekeeping } ∈ queue.pending

variable {queue rest : EventQueue Event} {id : DatacenterId} {time : Seconds}

theorem Awaits.dispatch (awaits : queue.Awaits id time) (dispatches : List Dispatch) :
    (queue.dispatch dispatches).Awaits id time :=
  mem_dispatch.2 (.inr awaits)

theorem awaits_dispatch {dispatches : List Dispatch} {delay : Seconds}
    (asked : { target := id, delay := delay, event := .housekeeping } ∈ dispatches) :
    (queue.dispatch dispatches).Awaits id (queue.dueTime delay) :=
  mem_dispatch.2 (.inl ⟨_, asked, rfl⟩)

theorem Awaits.pop {entry : Scheduled Event} (awaits : queue.Awaits id time)
    (popped : queue.pop? = some (entry, rest)) :
    (entry.time = time ∧ entry.target = id ∧ entry.event = .housekeeping) ∨
      rest.Awaits id time := by
  rw [Awaits, (pop?_eq_some.1 popped).1] at awaits
  rcases List.mem_cons.1 awaits with same | later
  · subst same
    exact .inl ⟨rfl, rfl, rfl⟩
  · exact .inr later

end EventQueue

namespace Datacenter

variable {datacenter : Datacenter}

/-- When the housekeeping is due that no earlier pass makes superfluous. -/
def nextPass (datacenter : Datacenter) : Seconds :=
  match datacenter.lastPass with
  | some last => last + datacenter.interval
  | none => 0

theorem nextPass_congr {other : Datacenter} (lastPass : other.lastPass = datacenter.lastPass)
    (interval : other.interval = datacenter.interval) :
    other.nextPass = datacenter.nextPass := by
  rw [nextPass, lastPass, interval]
  rfl

theorem comesTooSoon_nextPass (positive : 0 < datacenter.gap)
    (patient : datacenter.gap ≤ datacenter.interval)
    (clock : ∀ last ∈ datacenter.lastPass, last.IsInstant) :
    datacenter.comesTooSoon datacenter.nextPass = false := by
  rw [comesTooSoon, nextPass]
  cases passed : datacenter.lastPass with
  | none => rfl
  | some last =>
      have instant := clock last passed
      have gap : 0 ≤ datacenter.gap := le_of_lt positive
      have interval : 0 ≤ datacenter.interval :=
        le_of_lt (pos_of_pos_of_le positive patient)
      have order := rank_add_mono instant gap patient
      simp only [decide_eq_false_iff_not]
      rw [(instant.add interval).lt_iff (instant.add gap)]
      omega

/-- Either there was a pass, which asked for housekeeping one interval later, or the last
pass is still the same. -/
theorem Handled.paced {network : Network} {event : Event} {reaction : Reaction Datacenter Unit}
    (handled : datacenter.Handled network event reaction) :
    (reaction.state.lastPass = datacenter.lastPass ∧
        (event = .housekeeping → datacenter.comesTooSoon network.now = true)) ∨
      (reaction.state.lastPass = some network.now ∧
        datacenter.housekeepingIn datacenter.interval ∈ reaction.dispatches) := by
  have asked : datacenter.housekeepingIn datacenter.interval ∈
      (datacenter.pass network).2.1 := by
    obtain ⟨following, dispatched, regular, -⟩ := datacenter.pass_dispatches network
    rw [dispatched]
    exact List.mem_append_right _ regular
  cases handled with
  | skipped soon => exact .inl ⟨rfl, fun _ => soon⟩
  | passed => exact .inr ⟨rfl, asked⟩
  | accepted => exact .inr ⟨rfl, List.mem_append_left _ asked⟩
  | delivered | refused => exact .inl ⟨rfl, nofun⟩

end Datacenter

namespace Simulation

/-- No datacenter drops the housekeeping that follows its last pass. -/
def Patient (simulation : Simulation) : Prop :=
  ∀ id datacenter, simulation.datacenters.get? id = some datacenter →
    0 < datacenter.gap ∧ datacenter.gap ≤ datacenter.interval

/-- Every datacenter awaits the housekeeping that follows its last pass. -/
structure Paced (simulation : Simulation) : Prop where
  clocks : ∀ id datacenter, simulation.datacenters.get? id = some datacenter →
    ∀ last ∈ datacenter.lastPass, last.IsInstant
  fresh : simulation.started = false →
    simulation.now = 0 ∧ ∀ id datacenter,
      simulation.datacenters.get? id = some datacenter → datacenter.lastPass = none
  awaits : simulation.started = true → ∀ id datacenter,
    simulation.datacenters.get? id = some datacenter →
      simulation.queue.Awaits id datacenter.nextPass

theorem Paced.dispatch {simulation : Simulation} (paced : simulation.Paced)
    (dispatches : List Dispatch) (counters : SimulationCounters) :
    Paced { simulation with
      queue := simulation.queue.dispatch dispatches, counters := counters } where
  clocks := paced.clocks
  fresh running := by
    rw [now, EventQueue.dispatch_now]
    exact paced.fresh running
  awaits running id datacenter found := (paced.awaits running id datacenter found).dispatch _

theorem Paced.congr {before after : Simulation} (paced : before.Paced)
    (queue : after.queue = before.queue) (started : after.started = before.started)
    (kept : ∀ id next, after.datacenters.get? id = some next →
      ∃ previous, before.datacenters.get? id = some previous ∧
        next.lastPass = previous.lastPass ∧ next.interval = previous.interval) :
    after.Paced where
  clocks id next found := by
    obtain ⟨previous, old, lastPass, -⟩ := kept id next found
    rw [lastPass]
    exact paced.clocks id previous old
  fresh waiting := by
    obtain ⟨early, unpassed⟩ := paced.fresh (started ▸ waiting)
    refine ⟨(congrArg EventQueue.now queue).trans early, fun id next found => ?_⟩
    obtain ⟨previous, old, lastPass, -⟩ := kept id next found
    exact lastPass.trans (unpassed id previous old)
  awaits running id next found := by
    obtain ⟨previous, old, lastPass, interval⟩ := kept id next found
    rw [queue, Datacenter.nextPass_congr lastPass interval]
    exact paced.awaits (started ▸ running) id previous old

/-- The first housekeeping is asked for when the simulation starts. -/
theorem Paced.start {simulation : Simulation} (paced : simulation.Paced) :
    simulation.start.Paced := by
  rw [Simulation.start]
  split
  · exact paced
  · rename_i waiting
    obtain ⟨early, unpassed⟩ := paced.fresh (by simpa using waiting)
    refine ⟨paced.clocks, fun never => Bool.noConfusion never, fun _ id datacenter found => ?_⟩
    have first : datacenter.nextPass = simulation.queue.dueTime 0 := by
      rw [Datacenter.nextPass, unpassed id datacenter found, EventQueue.dueTime_zero]
      · exact early.symm
      · change simulation.queue.now = 0 at early
        rw [early]
        exact isInstant_zero
    rw [first]
    exact EventQueue.awaits_dispatch
      (List.mem_map.2 ⟨id, Table.mem_keys.2 ⟨datacenter, found⟩, rfl⟩)

end Simulation

namespace Deployment

variable {deployment : Deployment}

theorem Consistent.paced_ran (consistent : deployment.Consistent)
    (running : deployment.simulation.started = true) {limit : Seconds}
    {fault : Option Fault} {next : Simulation}
    (stepped : deployment.simulation.step? deployment.broker.registry limit =
      some (fault, next))
    (patient : deployment.simulation.Patient) (paced : deployment.simulation.Paced) :
    next.Paced := by
  obtain ⟨entry, rest, datacenter, reaction, popped, -, found, handled, absorbed⟩ :=
    consistent.step? stepped
  obtain ⟨listed, shown⟩ := EventQueue.pop?_eq_some.1 popped
  obtain ⟨positive, gap⟩ := patient _ _ found
  have interval : reaction.state.interval = datacenter.interval :=
    congrArg Datacenter.Layout.interval handled.layout
  refine ⟨fun id other present => ?_, fun waiting => ?_, fun _ id other present => ?_⟩
  · rcases absorbed.get?_datacenter present with ⟨rfl, rfl⟩ | ⟨-, old⟩
    · rcases handled.paced with ⟨same, -⟩ | ⟨passed, -⟩
      · exact same ▸ paced.clocks _ _ found
      · change ∀ last ∈ reaction.state.lastPass, last.IsInstant
        rw [passed]
        intro last now
        exact Option.some.inj now ▸
          consistent.ordered.instants entry (listed ▸ List.mem_cons_self)
    · exact paced.clocks id other old
  · rw [absorbed.started, running] at waiting
    cases waiting
  · rw [absorbed.queue]
    rcases absorbed.get?_datacenter present with ⟨rfl, rfl⟩ | ⟨different, old⟩
    · rcases handled.paced with ⟨same, soon⟩ | ⟨passed, asked⟩
      · have due : Datacenter.nextPass { reaction.state with completed := [] } =
            datacenter.nextPass := Datacenter.nextPass_congr same interval
        rw [due]
        rcases (paced.awaits running _ _ found).pop popped with ⟨awaited, -, event⟩ | later
        · -- What was taken is the awaited housekeeping, and that is not dropped.
          have dropped := soon event
          simp only [awaited, Datacenter.comesTooSoon_nextPass positive gap
            (paced.clocks _ _ found)] at dropped
          cases dropped
        · exact later.dispatch _
      · have due : Datacenter.nextPass { reaction.state with completed := [] } =
            rest.dueTime datacenter.interval := by
          simp only [Datacenter.nextPass, passed, interval]
          rw [EventQueue.dueTime_of_pos (pos_of_pos_of_le positive gap), shown]
        rw [due]
        have named : datacenter.id = entry.target := consistent.named _ _ found
        rw [Datacenter.housekeepingIn, named] at asked
        exact EventQueue.awaits_dispatch asked
    · rcases (paced.awaits running id other old).pop popped with ⟨-, here, -⟩ | later
      · exact absurd here.symm different
      · exact later.dispatch _

theorem Consistent.paced_step (consistent : deployment.Consistent) {fault : Option Fault}
    {next : Deployment} (step : Step deployment fault next)
    (patient : deployment.simulation.Patient) (paced : deployment.simulation.Paced) :
    next.simulation.Paced := by
  cases step with
  | queued | gathered => exact paced
  | considered => exact paced.dispatch _ _
  | started => exact paced.start
  | ran running stepped => exact consistent.paced_ran running stepped patient paced
  | reclaimed id workload =>
      rcases consistent.reclaim_cases id workload with
        same | ⟨datacenter, owner, host, returned, scheduler, found, present, handed, same⟩
      · rw [same]
        exact paced
      · rw [same]
        refine paced.congr rfl rfl fun other next listed => ?_
        rcases Table.of_get?_insert listed with ⟨rfl, rfl⟩ | ⟨-, before⟩
        · exact ⟨datacenter, found, rfl, rfl⟩
        · exact ⟨next, before, rfl, rfl⟩

theorem Assembled.patient {configuration : Configuration}
    (assembled : Assembled configuration deployment)
    (patient : configuration.run.gap ≤ configuration.run.interval) {reached : Deployment}
    (layout : reached.simulation.layout = deployment.simulation.layout) :
    reached.simulation.Patient := by
  intro id datacenter found
  obtain ⟨interval, gap⟩ := assembled.timed layout id datacenter found
  obtain ⟨-, positive, -⟩ := Configuration.validate_eq_ok assembled.valid
  rw [interval, gap]
  exact ⟨positive, patient⟩

theorem Assembled.paced_after {configuration : Configuration}
    (assembled : Assembled configuration deployment)
    (patient : configuration.run.gap ≤ configuration.run.interval)
    (operations : List Operation) : (deployment.after operations).simulation.Paced := by
  have initially : deployment.simulation.Paced := by
    have unpassed : ∀ id datacenter, deployment.simulation.datacenters.get? id =
        some datacenter → datacenter.lastPass = none := fun id datacenter found => by
      obtain ⟨settings, -, -, rfl⟩ := assembled.of_get?_datacenter found
      rw [DatacenterSettings.build_eq]
      rfl
    refine ⟨fun id datacenter found last passed => ?_, fun _ => ⟨?_, unpassed⟩,
      fun running => ?_⟩
    · rw [unpassed id datacenter found] at passed
      cases passed
    · rw [Simulation.now, assembled.queue]
      rfl
    · rw [assembled.simulation] at running
      cases running
  have both := assembled.after_induction
    (fun reached => reached.simulation.layout = deployment.simulation.layout ∧
      reached.simulation.Paced)
    (fun _ => True) ⟨rfl, initially⟩
    (fun consistent step _ holds =>
      ⟨(consistent.layout_step step).trans holds.1,
        consistent.paced_step step (assembled.patient patient holds.1) holds.2⟩)
    operations (fun _ _ => trivial)
  exact both.2

/-- Once a run comes to its end, every datacenter has had a pass and awaits the
housekeeping that follows it. -/
theorem Assembled.awaits_after_run {configuration : Configuration}
    (assembled : Assembled configuration deployment)
    (patient : configuration.run.gap ≤ configuration.run.interval)
    {operations : List Operation} {limit time : Seconds} {bound : Nat} {next : Deployment}
    (nonneg : 0 ≤ limit)
    (ran : (deployment.after operations).runUntil? limit bound = some (.ok time, next))
    {settings : DatacenterSettings} (member : settings ∈ configuration.datacenters) :
    ∃ datacenter last,
      next.simulation.datacenters.get? settings.id = some datacenter ∧
        datacenter.lastPass = some last ∧ last.IsInstant ∧
          next.simulation.queue.Awaits settings.id (last + configuration.run.interval) := by
  obtain ⟨performed, running, settled⟩ := runUntil?_ok ran
  rw [← after_append] at performed
  have consistent : next.Consistent := performed ▸ assembled.consistent_after _
  have layout : next.simulation.layout = deployment.simulation.layout :=
    performed ▸ assembled.layout_after _
  have paced : next.simulation.Paced := by
    rw [performed]
    exact assembled.paced_after patient _
  have same := congrArg (fun table => table.get? settings.id) layout
  simp only [Simulation.layout, Table.get?_map, assembled.get?_datacenter member] at same
  obtain ⟨datacenter, found, equal⟩ := Option.map_eq_some_iff.1 same
  have interval : datacenter.interval = configuration.run.interval := by
    rw [DatacenterSettings.build_eq] at equal
    exact congrArg Datacenter.Layout.interval equal
  have awaits := paced.awaits running settings.id datacenter found
  cases passed : datacenter.lastPass with
  | none =>
      -- The first housekeeping is due at zero, before the end of any run.
      rw [Datacenter.nextPass, passed] at awaits
      exact absurd rfl
        (Simulation.time_ne_zero_of_step?_eq_none consistent.ordered nonneg settled awaits)
  | some last =>
      rw [Datacenter.nextPass, passed, interval] at awaits
      exact ⟨datacenter, last, found, passed, paced.clocks _ _ found last passed, awaits⟩

end Deployment

end CoSimulation
