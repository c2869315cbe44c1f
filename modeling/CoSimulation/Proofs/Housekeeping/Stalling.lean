import CoSimulation.Proofs.Deployment.Reclaiming
import CoSimulation.Proofs.Housekeeping.Awaiting

/-!
# When housekeeping stalls

If the gap is longer than the interval, the housekeeping that the first pass asks for comes
too soon and is dropped.  With nothing submitted there is no other, so a run up to one
interval leaves the queue empty.  `neverStalls_iff` puts the two directions together.
-/

namespace CoSimulation

open Binary64

/-! ## Datacenters without work -/

theorem Host.tick_of_idle {host : Host} (idle : host.scheduler.active = []) (network : Network)
    (time : Seconds) :
    (host.tick network time).result = .ok none ∧ (host.tick network time).dispatches = [] ∧
      (host.tick network time).state.scheduler.active = [] := by
  have nobody : host.scheduler.turns network time host.mips = [] := by
    rw [Scheduler.turns, idle]
    rfl
  simp only [tick, Scheduler.tick, nobody]
  exact ⟨rfl, rfl, rfl⟩

namespace Datacenter

/-- Nothing runs on the hosts. -/
def Idle (datacenter : Datacenter) : Prop :=
  ∀ id host, datacenter.host? id = some host → host.scheduler.active = []

/-- A pass over hosts without work asks for the next housekeeping and nothing else. -/
theorem Idle.pass {datacenter : Datacenter} (idle : datacenter.Idle) (network : Network) :
    (datacenter.pass network).1.Idle ∧
      (datacenter.pass network).2.1 = [datacenter.housekeepingIn datacenter.interval] ∧
      (datacenter.pass network).2.2 = [] := by
  have quiet : ∀ outcome ∈ (datacenter.hosts.map fun host =>
      host.tick network network.now).values,
      outcome.result = .ok none ∧ outcome.dispatches = [] := by
    intro outcome listed
    rw [Table.values_map] at listed
    obtain ⟨host, present, rfl⟩ := List.mem_map.1 listed
    obtain ⟨id, found⟩ := Table.mem_values.1 present
    obtain ⟨result, dispatches, -⟩ := Host.tick_of_idle (idle id host found) network network.now
    exact ⟨result, dispatches⟩
  refine ⟨fun id after found => ?_, ?_, ?_⟩
  · obtain ⟨host, before, rfl⟩ := of_host?_pass found
    exact (Host.tick_of_idle (idle id host before) network network.now).2.2
  · have nothing : (datacenter.hosts.map fun host =>
        host.tick network network.now).values.flatMap Reaction.dispatches = [] :=
      List.flatMap_eq_nil_iff.2 fun outcome listed => (quiet outcome listed).2
    have asleep : (datacenter.updateHosts network).2.2.1 = none := by
      change least? (List.filterMap _ _) = none
      rw [List.filterMap_eq_nil_iff.2 fun outcome listed => ?_]
      · rfl
      · rw [(quiet outcome listed).1]
    change List.flatMap _ _ ++ nextHousekeeping _ _ (datacenter.updateHosts network).2.2.1 = _
    rw [nothing, asleep]
    rfl
  · apply List.filterMap_eq_nil_iff.2
    intro outcome listed
    rw [(quiet outcome listed).1]

/-- Housekeeping without work either is dropped or asks for the next one. -/
theorem Idle.handled {datacenter : Datacenter} {network : Network}
    {reaction : Reaction Datacenter Unit} (idle : datacenter.Idle)
    (handled : datacenter.Handled network .housekeeping reaction) :
    reaction.result = .ok () ∧ reaction.state.Idle ∧
      ((datacenter.comesTooSoon network.now = true ∧
          reaction.state.lastPass = datacenter.lastPass ∧ reaction.dispatches = []) ∨
        (datacenter.comesTooSoon network.now = false ∧
          reaction.state.lastPass = some network.now ∧
            reaction.dispatches = [datacenter.housekeepingIn datacenter.interval])) := by
  cases handled with
  | skipped soon => exact ⟨rfl, idle, .inl ⟨soon, rfl, rfl⟩⟩
  | passed due =>
      obtain ⟨after, asked, faultless⟩ := idle.pass network
      refine ⟨?_, after, .inr ⟨due, rfl, asked⟩⟩
      rw [faultless]
      rfl

/-- What follows a pass at zero comes too soon if the gap is longer than the interval. -/
theorem comesTooSoon_of_hasty {datacenter : Datacenter} (positive : 0 < datacenter.interval)
    (hasty : datacenter.interval < datacenter.gap) (passed : datacenter.lastPass = some 0)
    {now : Seconds} (soon : now = 0 ∨ now = datacenter.interval) :
    datacenter.comesTooSoon now = true := by
  have longer : 0 < datacenter.gap := pos_of_pos_of_le positive (le_of_lt hasty)
  rw [comesTooSoon, passed]
  simp only [decide_eq_true_eq]
  rw [zero_add (isInstant_of_pos longer)]
  rcases soon with rfl | rfl
  · exact longer
  · exact hasty

/-- A datacenter without work that has had no pass, except possibly one at zero. -/
structure Unused (interval gap : Seconds) (datacenter : Datacenter) : Prop where
  interval : datacenter.interval = interval
  gap : datacenter.gap = gap
  idle : datacenter.Idle
  early : ∀ last ∈ datacenter.lastPass, last = 0

/-- The first housekeeping leads to a pass, and the one that follows it is dropped. -/
theorem Unused.handled {datacenter : Datacenter} {interval gap : Seconds} {network : Network}
    {reaction : Reaction Datacenter Unit} (unused : datacenter.Unused interval gap)
    (positive : 0 < interval) (hasty : interval < gap)
    (due : network.now = 0 ∨ network.now = interval ∧ datacenter.lastPass = some 0)
    (handled : datacenter.Handled network .housekeeping reaction) :
    reaction.result = .ok () ∧ reaction.state.Unused interval gap ∧
      reaction.state.lastPass = some 0 ∧
        ((datacenter.lastPass = some 0 ∧ reaction.dispatches = []) ∨
          (datacenter.lastPass = none ∧ network.now = 0 ∧
            reaction.dispatches = [datacenter.housekeepingIn interval])) := by
  obtain ⟨succeeded, idle, outcome⟩ := unused.idle.handled handled
  have layout := handled.layout
  have used (passed : reaction.state.lastPass = some 0) :
      reaction.state.Unused interval gap :=
    { interval := (congrArg Layout.interval layout).trans unused.interval
      gap := (congrArg Layout.gap layout).trans unused.gap
      idle := idle
      early := fun last member => Option.some.inj (member.symm.trans passed) }
  cases before : datacenter.lastPass with
  | none =>
      have start : network.now = 0 := by
        rcases due with start | ⟨-, later⟩
        · exact start
        · cases before.symm.trans later
      rcases outcome with ⟨soon, -⟩ | ⟨-, passed, asked⟩
      · rw [comesTooSoon, before] at soon
        cases soon
      · rw [start] at passed
        rw [unused.interval] at asked
        exact ⟨succeeded, used passed, passed, .inr ⟨rfl, start, asked⟩⟩
  | some last =>
      cases unused.early last before
      rcases outcome with ⟨-, same, asked⟩ | ⟨late, -⟩
      · have passed := same.trans before
        exact ⟨succeeded, used passed, passed, .inl ⟨rfl, asked⟩⟩
      · have soon : datacenter.comesTooSoon network.now = true := by
          apply comesTooSoon_of_hasty _ _ before
          · rw [unused.interval]
            exact due.imp_right And.left
          · rw [unused.interval]
            exact positive
          · rw [unused.interval, unused.gap]
            exact hasty
        cases soon.symm.trans late

/-- How many passes are sure to come. -/
def passesToCome (datacenter : Datacenter) : Nat :=
  if datacenter.lastPass.isNone then 1 else 0

end Datacenter

namespace Simulation

/-- Nothing was submitted, and no housekeeping is to come but the first and the one that
follows a pass at zero. -/
structure Idle (interval gap : Seconds) (simulation : Simulation) : Prop where
  unused : ∀ id datacenter, simulation.datacenters.get? id = some datacenter →
    datacenter.Unused interval gap
  coming : ∀ entry ∈ simulation.queue.pending, entry.event = .housekeeping ∧
    (entry.time = 0 ∨ entry.time = interval ∧
      ∀ datacenter, simulation.datacenters.get? entry.target = some datacenter →
        datacenter.lastPass = some 0)

/-- Bounds the events to come: what is to come, and what the passes to come ask for. -/
def remaining (simulation : Simulation) : Nat :=
  simulation.queue.pending.length +
    simulation.datacenters.sum fun _ datacenter => datacenter.passesToCome

theorem Absorbed.remaining {before after : Simulation} {entry : Scheduled Event}
    {rest : EventQueue Event} {reaction : Reaction Datacenter Unit} {fault : Option Fault}
    {datacenter : Datacenter} (absorbed : before.Absorbed entry rest reaction fault after)
    (popped : before.queue.pop? = some (entry, rest))
    (found : before.datacenters.get? entry.target = some datacenter) :
    after.remaining + 1 + datacenter.passesToCome =
      before.remaining + reaction.dispatches.length + reaction.state.passesToCome := by
  have exchanged : after.datacenters.sum (fun _ datacenter => datacenter.passesToCome) +
        datacenter.passesToCome =
      before.datacenters.sum (fun _ datacenter => datacenter.passesToCome) +
        reaction.state.passesToCome := absorbed.sum_datacenters found
  have counted : after.queue.pending.length =
      reaction.dispatches.length + rest.pending.length := by
    rw [absorbed.queue, (rest.dispatch_perm reaction.dispatches).length_eq,
      List.length_append, List.length_map]
  rw [Simulation.remaining, Simulation.remaining, (EventQueue.pop?_eq_some.1 popped).1,
    counted, List.length_cons]
  omega

end Simulation

namespace Deployment

variable {deployment : Deployment}

section Run

variable (consistent : deployment.Consistent) {interval gap : Seconds}
  (positive : 0 < interval) (hasty : interval < gap)
include consistent positive hasty

theorem Consistent.idle_ran {fault : Option Fault} {next : Simulation}
    (stepped : deployment.simulation.step? deployment.broker.registry interval =
      some (fault, next)) (idle : deployment.simulation.Idle interval gap) :
    fault = none ∧ next.Idle interval gap ∧
      next.remaining < deployment.simulation.remaining := by
  obtain ⟨entry, rest, datacenter, reaction, popped, -, found, handled, absorbed⟩ :=
    consistent.step? stepped
  obtain ⟨listed, shown⟩ := EventQueue.pop?_eq_some.1 popped
  obtain ⟨housekeeping, due⟩ := idle.coming entry (listed ▸ List.mem_cons_self)
  rw [housekeeping] at handled
  obtain ⟨succeeded, unused, passed, progress⟩ :=
    (idle.unused _ _ found).handled positive hasty
      (due.imp_right fun later => ⟨later.1, later.2 _ found⟩) handled
  refine ⟨?_, ?_, ?_⟩
  · rcases absorbed.counted with ⟨-, smooth, -⟩ | ⟨raised, failed, -⟩
    · exact smooth
    · cases succeeded.symm.trans failed
  · constructor
    · intro id owner present
      rcases absorbed.get?_datacenter present with ⟨-, rfl⟩ | ⟨-, old⟩
      · exact ⟨unused.interval, unused.gap, unused.idle, unused.early⟩
      · exact idle.unused id owner old
    · intro other waits
      rw [absorbed.queue] at waits
      rcases EventQueue.mem_dispatch.1 waits with ⟨dispatch, asked, rfl⟩ | waits
      · rcases progress with ⟨-, nothing⟩ | ⟨-, start, regular⟩
        · rw [nothing] at asked
          cases asked
        · rw [regular, List.mem_singleton] at asked
          subst asked
          refine ⟨rfl, .inr ⟨?_, ?_⟩⟩
          · change rest.dueTime interval = interval
            rw [EventQueue.dueTime_of_pos positive, shown.trans start,
              zero_add (isInstant_of_pos positive)]
          · intro owner present
            rcases absorbed.get?_datacenter present with ⟨-, rfl⟩ | ⟨different, -⟩
            · exact passed
            · exact absurd (consistent.named _ _ found) different
      · obtain ⟨event, moment⟩ := idle.coming other (listed ▸ List.mem_cons_of_mem _ waits)
        refine ⟨event, moment.imp_right fun later => ⟨later.1, ?_⟩⟩
        intro owner present
        rcases absorbed.get?_datacenter present with ⟨-, rfl⟩ | ⟨-, old⟩
        · exact passed
        · exact later.2 owner old
  · have measure := absorbed.remaining popped found
    rcases progress with ⟨before, nothing⟩ | ⟨before, -, regular⟩
    · simp [Datacenter.passesToCome, before, passed, nothing] at measure
      omega
    · simp [Datacenter.passesToCome, before, passed, regular] at measure
      omega

/-- A run without work comes to its end, and leaves nothing to come. -/
theorem Consistent.continue?_of_idle {bound : Nat} (idle : deployment.simulation.Idle interval gap)
    (enough : deployment.simulation.remaining < bound) :
    ∃ next, Simulation.continue? deployment.broker.registry interval bound
        deployment.simulation = some (.ok next.now, next) ∧ next.queue.pending = [] := by
  induction bound generalizing deployment with
  | zero => exact absurd enough (Nat.not_lt_zero _)
  | succ bound induction =>
      rw [Simulation.continue?]
      cases stepped : deployment.simulation.step? deployment.broker.registry interval with
      | none =>
          refine ⟨deployment.simulation, rfl, ?_⟩
          rw [Simulation.step?] at stepped
          split at stepped
          · rename_i nothing
            exact EventQueue.pop?_eq_none.1 nothing
          · rename_i entry rest popped
            have first : entry ∈ deployment.simulation.queue.pending :=
              (EventQueue.pop?_eq_some.1 popped).1 ▸ List.mem_cons_self
            split at stepped
            · rename_i beyond
              obtain ⟨-, -, later⟩ := lt_iff.1 beyond
              obtain ⟨-, -, above⟩ := lt_iff.1 positive
              rcases (idle.coming entry first).2 with start | ⟨due, -⟩
              · rw [start] at later
                omega
              · rw [due] at later
                omega
            · cases stepped
      | some result =>
          obtain ⟨fault, next⟩ := result
          obtain ⟨rfl, still, fewer⟩ := consistent.idle_ran positive hasty stepped idle
          have ran : Consistent { deployment with simulation := next } :=
            consistent.ran stepped
          exact induction ran still (Nat.lt_of_lt_of_le fewer (Nat.le_of_lt_succ enough))

end Run

theorem Assembled.idle_start {configuration : Configuration}
    (assembled : Assembled configuration deployment) :
    deployment.simulation.start.Idle configuration.run.interval configuration.run.gap := by
  have waiting : deployment.simulation.started = false := by
    rw [assembled.simulation]
    rfl
  have unused : ∀ id datacenter, deployment.simulation.datacenters.get? id = some datacenter →
      datacenter.Unused configuration.run.interval configuration.run.gap := by
    intro id datacenter found
    have idle : datacenter.Idle := by
      intro place host present
      obtain ⟨-, mips, rfl⟩ := assembled.of_host? found present
      rfl
    obtain ⟨settings, -, -, rfl⟩ := assembled.of_get?_datacenter found
    rw [DatacenterSettings.build_eq] at idle ⊢
    exact ⟨rfl, rfl, idle, nofun⟩
  rw [Simulation.start, waiting]
  refine ⟨unused, fun entry waits => ?_⟩
  rcases EventQueue.mem_dispatch.1 waits with ⟨dispatch, asked, rfl⟩ | old
  · obtain ⟨id, -, rfl⟩ := List.mem_map.1 asked
    refine ⟨rfl, .inl ?_⟩
    change deployment.simulation.queue.dueTime 0 = 0
    rw [assembled.queue]
    exact EventQueue.dueTime_zero isInstant_zero
  · rw [assembled.queue] at old
    cases old

/-- With a gap longer than the interval, a run up to one interval stalls if there is
nothing to do. -/
theorem Assembled.stalls {configuration : Configuration}
    (assembled : Assembled configuration deployment)
    (hasty : configuration.run.interval < configuration.run.gap) :
    ∃ bound next, deployment.runUntil? configuration.run.interval bound =
        some (.ok next.simulation.now, next) ∧ next.simulation.queue.pending = [] := by
  obtain ⟨positive, -⟩ := Configuration.validate_eq_ok assembled.valid
  obtain ⟨next, ran, nothing⟩ := assembled.consistent.start.continue?_of_idle positive hasty
    assembled.idle_start (Nat.lt_succ_self _)
  refine ⟨deployment.simulation.start.remaining + 1, { deployment with simulation := next },
    ?_, nothing⟩
  rw [runUntil?, Simulation.runUntil?, ran]
  rfl

/-! ## The exact condition -/

/-- After every run that comes to its end, each datacenter has housekeeping to come, at most
one interval after its last pass. -/
def NeverStalls (configuration : Configuration) (deployment : Deployment) : Prop :=
  ∀ (operations : List Operation) (limit : Seconds) (bound : Nat) (time : Seconds)
    (next : Deployment), 0 ≤ limit →
    (deployment.after operations).runUntil? limit bound = some (.ok time, next) →
    ∀ settings ∈ configuration.datacenters, ∃ datacenter last,
      next.simulation.datacenters.get? settings.id = some datacenter ∧
        datacenter.lastPass = some last ∧
        ∃ entry ∈ next.simulation.queue.pending, entry.target = settings.id ∧
          entry.event = .housekeeping ∧ entry.time ≤ last + configuration.run.interval

theorem neverStalls_iff {configuration : Configuration}
    (built : configuration.build = .ok deployment) :
    NeverStalls configuration deployment ↔
      configuration.datacenters = [] ∨ configuration.run.gap ≤ configuration.run.interval := by
  have assembled := assembled_of_build built
  obtain ⟨positive, spaced, -⟩ := Configuration.validate_eq_ok assembled.valid
  constructor
  · intro goes
    by_contra neither
    obtain ⟨nonempty, hurried⟩ := not_or.1 neither
    obtain ⟨settings, member⟩ := List.exists_mem_of_ne_nil _ nonempty
    obtain ⟨bound, next, ran, nothing⟩ :=
      assembled.stalls (lt_of_not_le positive spaced hurried)
    obtain ⟨-, -, -, -, entry, waits, -⟩ :=
      goes [] _ bound _ next (le_of_lt positive) ran settings member
    rw [nothing] at waits
    cases waits
  · rintro (none | patient) operations limit bound time next nonneg ran settings member
    · rw [none] at member
      cases member
    · obtain ⟨datacenter, last, found, passed, instant, awaits⟩ :=
        assembled.awaits_after_run patient nonneg ran member
      refine ⟨datacenter, last, found, passed, _, awaits, rfl, rfl, ?_⟩
      have due := instant.add (le_of_lt positive)
      exact (due.le_iff due).2 (Int.le_refl _)

/-- Datacenters whose housekeeping may not follow a pass as soon as it is asked for. -/
def hurriedConfiguration : Configuration :=
  { Configuration.paired with run := { interval := 1, gap := 10 } }

theorem neverStalls_iff_hurried :
    hurriedConfiguration.build = .ok hurriedConfiguration.assemble ∧
      ¬ NeverStalls hurriedConfiguration hurriedConfiguration.assemble ∧
      NeverStalls Configuration.paired Configuration.paired.assemble ∧
      (hurriedConfiguration.assemble.runUntil? 1 10).map (fun result =>
        result.2.simulation.queue.size) = some 0 ∧
      (Configuration.paired.assemble.runUntil? 1 10).map (fun result =>
        result.2.simulation.queue.size) = some 2 := by
  have hurried := Configuration.build_of_valid
    (show hurriedConfiguration.validate = .ok () by decide +kernel)
  have patient := Configuration.build_of_valid Configuration.paired_valid
  refine ⟨hurried, fun goes => ?_, (neverStalls_iff patient).2 (.inr (by decide +kernel)),
    by decide +kernel, by decide +kernel⟩
  rcases (neverStalls_iff hurried).1 goes with none | slow
  · cases none
  · exact absurd slow (by decide +kernel)

end Deployment

end CoSimulation
