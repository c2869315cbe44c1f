import CoSimulation.Proofs.Clocks
import CoSimulation.Proofs.Deployment.Assembly
import CoSimulation.Proofs.Deployment.Reclaiming
import CoSimulation.Proofs.Runs.Splitting

/-!
# Runs whose clock moves on

Every event that is handled uses up a submission, or it is dropped or delivered and leaves
nothing, or it is housekeeping that leads to a pass.  Two passes of one datacenter are a gap
apart, so if no time up to the limit swallows the gap, each pass leaves less time for the
next one, and the run comes to its end.
-/

namespace CoSimulation

open Binary64

/-- Up to the limit the clock shows a later time after the gap. -/
structure Spaced (gap limit : Seconds) : Prop where
  numeric : limit.isNaN = false
  apart : ∀ time : Seconds, time.IsInstant → time ≤ limit → time < time + gap

/-- It is enough if the gap is as long as the last step of the clock before the limit. -/
theorem spaced_of_step {gap limit : Seconds} (positive : 0 < gap) (instant : limit.IsInstant)
    (finite : limit.magnitude < infinityMagnitude)
    (step : unitsOf (limit.magnitude + 1) ≤ unitsOf limit.magnitude + unitsOf gap.magnitude) :
    Spaced gap limit where
  numeric := instant.isNaN_eq
  apart := by
    intro time here before
    have nonneg := le_of_lt positive
    have below := here.magnitude_le instant ((here.le_iff instant).1 before)
    rw [here.lt_iff (here.add nonneg), rank_add here nonneg, here.rank_eq, Int.ofNat_lt]
    -- the steps of the clock get longer, so the one at this time is no longer than the gap
    have shorter : 2 ^ (time.magnitude / 2 ^ 52 - 1) ≤ unitsOf gap.magnitude := by
      have last : 2 ^ (limit.magnitude / 2 ^ 52 - 1) ≤ unitsOf gap.magnitude := by
        rw [unitsOf_succ] at step
        omega
      have binades : time.magnitude / 2 ^ 52 ≤ limit.magnitude / 2 ^ 52 :=
        Nat.div_le_div_right below
      exact (Nat.pow_le_pow_right (by decide) (by omega)).trans last
    have reaches : unitsOf (time.magnitude + 1) ≤
        unitsOf time.magnitude + unitsOf gap.magnitude := by
      rw [unitsOf_succ]
      exact Nat.add_le_add_left shorter _
    calc
      time.magnitude < time.magnitude + 1 := Nat.lt_succ_self _
      _ = nearestMagnitude (unitsOf (time.magnitude + 1)) 1 :=
        (nearestMagnitude_unitsOf (Nat.succ_le_of_lt (Nat.lt_of_le_of_lt below finite))).symm
      _ ≤ sumMagnitude time gap := nearestMagnitude_mono reaches

/-! ## What an event uses up -/

def Event.submissions : Event → Nat
  | .submit .. => 1
  | .housekeeping | .deliver _ => 0

namespace Datacenter

variable {datacenter : Datacenter} {network : Network} {event : Event}
  {reaction : Reaction Datacenter Unit}

/-- How far the clock can move on before the limit since the last pass. -/
def leeway (limit : Seconds) (datacenter : Datacenter) : Nat :=
  match datacenter.lastPass with
  | none => limit.position.toNat + 1
  | some last => limit.position.toNat - last.rank.toNat

/-- The last pass was not in the future. -/
def Punctual (now : Seconds) (datacenter : Datacenter) : Prop :=
  ∀ last ∈ datacenter.lastPass, last.IsInstant ∧ last.rank ≤ now.rank

theorem Punctual.later {now later : Seconds} (punctual : datacenter.Punctual now)
    (forward : now.rank ≤ later.rank) : datacenter.Punctual later :=
  fun last passed => ⟨(punctual last passed).1, (punctual last passed).2.trans forward⟩

/-- A submission is used up; or nothing comes of the event; or there is a pass that is not
too soon after the last one. -/
theorem Handled.progress (handled : datacenter.Handled network event reaction) :
    (event.submissions = 1 ∧ reaction.state.lastPass = some network.now) ∨
      event.submissions = 0 ∧
        ((reaction.dispatches = [] ∧ reaction.state.lastPass = datacenter.lastPass) ∨
          (datacenter.comesTooSoon network.now = false ∧
            reaction.state.lastPass = some network.now)) := by
  cases handled with
  | skipped | delivered | refused => exact .inr ⟨rfl, .inl ⟨rfl, rfl⟩⟩
  | passed due => exact .inr ⟨rfl, .inr ⟨due, rfl⟩⟩
  | accepted => exact .inl ⟨rfl, rfl⟩

theorem Handled.punctual (handled : datacenter.Handled network event reaction) {now : Seconds}
    (before : datacenter.Punctual now) (clock : network.now.IsInstant)
    (forward : now.rank ≤ network.now.rank) : reaction.state.Punctual network.now := by
  have moved (passed : reaction.state.lastPass = some network.now) :
      reaction.state.Punctual network.now := by
    intro last member
    rw [passed] at member
    cases member
    exact ⟨clock, Int.le_refl _⟩
  rcases handled.progress with ⟨-, passed⟩ | ⟨-, ⟨-, same⟩ | ⟨-, passed⟩⟩
  · exact moved passed
  · intro last member
    rw [same] at member
    exact before.later forward last member
  · exact moved passed

/-- A pass that is not too soon leaves less time than the one before. -/
theorem leeway_lt {next : Datacenter} {now limit : Seconds} (spaced : Spaced datacenter.gap limit)
    (positive : 0 < datacenter.gap) (punctual : datacenter.Punctual now) (clock : now.IsInstant)
    (due : now ≤ limit) (late : datacenter.comesTooSoon now = false)
    (passed : next.lastPass = some now) : next.leeway limit < datacenter.leeway limit := by
  have inside : now.rank ≤ limit.position := by
    obtain ⟨-, -, below⟩ := le_iff.1 due
    rwa [clock.position_eq] at below
  have start := clock.rank_nonneg
  rw [leeway, passed, leeway]
  cases before : datacenter.lastPass with
  | none =>
      simp only
      omega
  | some last =>
      obtain ⟨instant, earlier⟩ := punctual last before
      have early : last ≤ limit := by
        obtain ⟨-, numeric, -⟩ := le_iff.1 due
        refine le_iff.2 ⟨instant.isNaN_eq, numeric, ?_⟩
        rw [instant.position_eq]
        exact earlier.trans inside
      have apart := spaced.apart last instant early
      have next := instant.add (le_of_lt positive)
      simp only [comesTooSoon, before, decide_eq_false_iff_not] at late
      rw [clock.lt_iff next] at late
      rw [instant.lt_iff next] at apart
      have first := instant.rank_nonneg
      simp only
      omega

end Datacenter

namespace Simulation

/-- What a run can still use up: submissions, time and events. -/
def resources (limit : Seconds) (simulation : Simulation) : Nat × Nat × Nat :=
  (simulation.queue.sum Event.submissions,
    simulation.datacenters.sum fun _ datacenter => datacenter.leeway limit,
    simulation.queue.pending.length)

/-- All passes so far were not in the future. -/
def Punctual (simulation : Simulation) : Prop :=
  ∀ id datacenter, simulation.datacenters.get? id = some datacenter →
    datacenter.Punctual simulation.now

theorem punctual_start {simulation : Simulation} (punctual : simulation.Punctual) :
    simulation.start.Punctual := by
  rw [start]
  split
  · exact punctual
  · intro id datacenter found
    rw [now, EventQueue.dispatch_now]
    exact punctual id datacenter found

theorem timed_start {simulation : Simulation} {interval gap : Seconds}
    (timed : simulation.Timed interval gap) : simulation.start.Timed interval gap := by
  rw [start]
  split <;> exact timed

end Simulation

namespace Deployment

variable {deployment : Deployment} {limit interval gap : Seconds} {fault : Option Fault}
  {next : Simulation}

namespace Consistent

variable (consistent : deployment.Consistent)
include consistent

theorem punctual_ran (punctual : deployment.simulation.Punctual)
    (stepped : deployment.simulation.step? deployment.broker.registry limit =
      some (fault, next)) : next.Punctual := by
  obtain ⟨entry, rest, datacenter, reaction, popped, -, found, handled, absorbed⟩ :=
    consistent.step? stepped
  obtain ⟨listed, shown⟩ := EventQueue.pop?_eq_some.1 popped
  have first : entry ∈ deployment.simulation.queue.pending := listed ▸ List.mem_cons_self
  have clock := consistent.ordered.instants entry first
  have forward : deployment.simulation.now.rank ≤ entry.time.rank :=
    consistent.ordered.upcoming entry first
  have now : next.now = entry.time := by
    rw [Simulation.now, absorbed.queue, EventQueue.dispatch_now, shown]
  intro id other present
  rw [now]
  rcases absorbed.get?_datacenter present with ⟨-, rfl⟩ | ⟨-, old⟩
  · exact handled.punctual (punctual _ _ found) clock forward
  · exact (punctual id other old).later forward

theorem timed_ran (timed : deployment.simulation.Timed interval gap)
    (stepped : deployment.simulation.step? deployment.broker.registry limit =
      some (fault, next)) : next.Timed interval gap := by
  obtain ⟨entry, rest, datacenter, reaction, -, -, found, handled, absorbed⟩ :=
    consistent.step? stepped
  intro id other present
  rcases absorbed.get?_datacenter present with ⟨-, rfl⟩ | ⟨-, old⟩
  · obtain ⟨same, apart⟩ := timed _ _ found
    exact ⟨(congrArg Datacenter.Layout.interval handled.layout).trans same,
      (congrArg Datacenter.Layout.gap handled.layout).trans apart⟩
  · exact timed id other old

/-- Every event uses up some of what a run has. -/
theorem resources_ran (punctual : deployment.simulation.Punctual)
    (timed : deployment.simulation.Timed interval gap) (positive : 0 < gap)
    (spaced : Spaced gap limit)
    (stepped : deployment.simulation.step? deployment.broker.registry limit =
      some (fault, next)) :
    Prod.Lex (· < ·) (Prod.Lex (· < ·) (· < ·)) (next.resources limit)
      (deployment.simulation.resources limit) := by
  obtain ⟨entry, rest, datacenter, reaction, popped, due, found, handled, absorbed⟩ :=
    consistent.step? stepped
  obtain ⟨listed, shown⟩ := EventQueue.pop?_eq_some.1 popped
  have first : entry ∈ deployment.simulation.queue.pending := listed ▸ List.mem_cons_self
  have clock := consistent.ordered.instants entry first
  have inside : entry.time ≤ limit := by
    refine le_iff.2 ⟨clock.isNaN_eq, spaced.numeric, Int.not_lt.1 fun beyond => ?_⟩
    exact due (lt_iff.2 ⟨spaced.numeric, clock.isNaN_eq, beyond⟩)
  have submissions : next.queue.sum Event.submissions + entry.event.submissions =
      deployment.simulation.queue.sum Event.submissions := by
    have none : (reaction.dispatches.map fun dispatch => dispatch.event.submissions).sum = 0 := by
      apply List.sum_eq_zero
      intro count listed
      obtain ⟨dispatch, member, rfl⟩ := List.mem_map.1 listed
      rcases handled.dispatches dispatch member with ⟨_, _, event, -⟩ | ⟨-, event⟩ <;>
        rw [event] <;> rfl
    rw [absorbed.queue, EventQueue.sum_dispatch, none, EventQueue.sum_pop _ popped, Nat.zero_add,
      Nat.add_comm]
  have leeways : next.datacenters.sum (fun _ datacenter => datacenter.leeway limit) +
        datacenter.leeway limit =
      deployment.simulation.datacenters.sum (fun _ datacenter => datacenter.leeway limit) +
        reaction.state.leeway limit := absorbed.sum_datacenters found
  rcases handled.progress with ⟨one, -⟩ | ⟨none, ⟨nothing, same⟩ | ⟨late, passed⟩⟩
  · apply Prod.Lex.left
    omega
  · have used : next.queue.sum Event.submissions =
        deployment.simulation.queue.sum Event.submissions := by omega
    have left : reaction.state.leeway limit = datacenter.leeway limit := by
      rw [Datacenter.leeway, same, Datacenter.leeway]
    have shorter : next.queue.pending.length < deployment.simulation.queue.pending.length := by
      rw [absorbed.queue, nothing, listed]
      exact Nat.lt_succ_self _
    have still : next.datacenters.sum (fun _ datacenter => datacenter.leeway limit) =
        deployment.simulation.datacenters.sum fun _ datacenter => datacenter.leeway limit := by
      omega
    rw [Simulation.resources, Simulation.resources, used, still]
    exact .right _ (.right _ shorter)
  · have used : next.queue.sum Event.submissions =
        deployment.simulation.queue.sum Event.submissions := by omega
    obtain ⟨-, gap⟩ := timed _ _ found
    have less : reaction.state.leeway limit < datacenter.leeway limit := by
      have before := (punctual _ _ found).later (consistent.ordered.upcoming entry first)
      exact Datacenter.leeway_lt (gap ▸ spaced) (gap ▸ positive) before clock inside late passed
    rw [Simulation.resources, Simulation.resources, used]
    refine .right _ (.left _ _ ?_)
    omega

end Consistent

/-- A run whose limit the gap is made for comes to its end. -/
theorem Consistent.settles {deployment : Deployment} (consistent : deployment.Consistent)
    (punctual : deployment.simulation.Punctual)
    (timed : deployment.simulation.Timed interval gap) (positive : 0 < gap)
    (spaced : Spaced gap limit) :
    ∃ outcome, Simulation.Settles deployment.broker.registry limit deployment.simulation
      outcome := by
  cases stepped : deployment.simulation.step? deployment.broker.registry limit with
  | none => exact ⟨_, .done stepped⟩
  | some result =>
      obtain ⟨_ | fault, next⟩ := result
      · have less := consistent.resources_ran punctual timed positive spaced stepped
        obtain ⟨outcome, rest⟩ := Consistent.settles (consistent.ran stepped)
          (consistent.punctual_ran punctual stepped) (consistent.timed_ran timed stepped) positive
          spaced
        exact ⟨outcome, .went stepped rest⟩
      · exact ⟨_, .stopped stepped⟩
termination_by deployment.simulation.resources limit
decreasing_by exact less

/-! ## Every session -/

theorem Consistent.punctual_step (consistent : deployment.Consistent) {after : Deployment}
    (step : Step deployment fault after) (punctual : deployment.simulation.Punctual) :
    after.simulation.Punctual := by
  cases step with
  | queued | gathered => exact punctual
  | considered =>
      intro id datacenter found
      rw [Simulation.now, Deployment.considered, EventQueue.dispatch_now]
      exact punctual id datacenter found
  | started => exact Simulation.punctual_start punctual
  | ran _ stepped => exact consistent.punctual_ran punctual stepped
  | reclaimed id workload =>
      rcases consistent.reclaim_cases id workload with
        same | ⟨datacenter, owner, host, returned, scheduler, found, present, handed, same⟩
      · rw [same]
        exact punctual
      · rw [same]
        intro other next listed
        rcases Table.of_get?_insert listed with ⟨rfl, rfl⟩ | ⟨-, before⟩
        · exact punctual other datacenter found
        · exact punctual other next before

namespace Assembled

variable {configuration : Configuration} (assembled : Assembled configuration deployment)
include assembled

theorem punctual_after (operations : List Operation) :
    (deployment.after operations).simulation.Punctual := by
  refine assembled.after_induction (fun reached => reached.simulation.Punctual) (fun _ => True)
    ?_ (fun consistent step _ punctual => consistent.punctual_step step punctual) operations
    (fun _ _ => trivial)
  intro id datacenter found last passed
  obtain ⟨settings, -, -, rfl⟩ := assembled.of_get?_datacenter found
  rw [DatacenterSettings.build_eq] at passed
  cases passed

/-- Whatever was done before, a run comes to its end if its limit leaves room for the gap. -/
theorem returns (operations : List Operation) {limit : Seconds}
    (spaced : Spaced configuration.run.gap limit) :
    ∃ bound outcome, (deployment.after operations).runUntil? limit bound = some outcome := by
  obtain ⟨-, positive, -⟩ := Configuration.validate_eq_ok assembled.valid
  have consistent := (assembled.consistent_after operations).start
  have punctual := Simulation.punctual_start (assembled.punctual_after operations)
  have timed := Simulation.timed_start (assembled.timed (assembled.layout_after operations))
  obtain ⟨outcome, settles⟩ := consistent.settles punctual timed positive spaced
  obtain ⟨bound, ran⟩ := Simulation.returns_iff.2 settles
  exact ⟨bound, _, by rw [runUntil?, ran]; rfl⟩

end Assembled

end Deployment

end CoSimulation
