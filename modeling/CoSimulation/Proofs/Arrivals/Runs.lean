import CoSimulation.Proofs.Arrivals.Simulations

/-!
# Runs of a simulation of relays

A datacenter that overruns dispatches messages that are overdue; the periods of a run tell
when such messages were due.  Two messages are handed over out of order only if the second
one was due then and may have been sent by that datacenter, and different datacenters send
along the edges of the two.
-/

namespace CoSimulation.Simulation

open Binary64

/-- The periods that end while events are handled until none is due up to `limit`, a fault
stops the run or `bound` events were handled. -/
def periods (registry : Registry) (limit : Seconds) : Nat → Simulation → List Period
  | 0, _ => []
  | bound + 1, simulation =>
      match simulation.step? registry limit with
      | none => []
      | some (some _, _) => simulation.nextPeriod?.toList
      | some (none, next) => simulation.nextPeriod?.toList ++ periods registry limit bound next

/-- The engine ran between the two arrivals, two datacenters send along their edges, and the
later one was overdue at the end of one of the periods. -/
structure Crossing (delay : Seconds) (periods : List Period) (simulation : Simulation)
    (earlier later : Arrival) : Prop where
  apart : earlier.tick < later.tick
  origins : ∃ first second, first ≠ second ∧
    simulation.SendsFrom first earlier.origin earlier.dest ∧
      simulation.SendsFrom second later.origin later.dest
  overdue : ∃ period ∈ periods, later.Among (simulation.Overdue delay period)

/-- Messages are in order along edges on which only one datacenter sends, and those that were
not overdue at the end of any period are in order with all others. -/
structure Sequenced (delay : Seconds) (periods : List Period) (simulation : Simulation) :
    Prop where
  relaying : simulation.Relaying delay
  timely : ∀ home chosen, simulation.Exclusive home chosen →
    simulation.Timely chosen (Workload.stamp delay (simulation.sliceStart home))
  prompt : ∀ chosen, (∀ period ∈ periods, ∀ time origin dest,
    simulation.Overdue delay period time origin dest → ¬ chosen time origin dest) →
      simulation.Prompt chosen

section Runs

variable {delay : Seconds} {periods : List Period} {simulation next : Simulation}
  {registry : Registry} {limit : Seconds}

theorem Sequenced.step? (nonneg : 0 ≤ delay) (sequenced : simulation.Sequenced delay periods)
    {fault : Option Fault} (stepped : simulation.step? registry limit = some (fault, next)) :
    next.Sequenced delay (periods ++ simulation.nextPeriod?.toList) := by
  obtain ⟨relaying, timely, prompt⟩ := sequenced
  obtain ⟨entry, rest, popped, -, ⟨-, rfl⟩ | ⟨datacenter, found, absorbed⟩⟩ :=
    step?_cases stepped
  · constructor
    · exact relaying.popped popped
    · exact fun home chosen exclusive =>
        (timely home chosen exclusive).popped relaying.ordered popped
    · intro chosen within
      apply (prompt chosen _).popped relaying.ordered popped
      exact fun period member time origin dest overdue =>
        within period (List.mem_append_left _ member) time origin dest
          { overdue with sends := overdue.sends }
  · have kept {id : DatacenterId} {origin dest : VertexId}
        (sends : simulation.SendsFrom id origin dest) : next.SendsFrom id origin dest :=
      relaying.sendsFrom_absorbed popped found absorbed sends
    constructor
    · exact relaying.absorb popped found absorbed nonneg
    · intro home chosen exclusive
      apply relaying.timely_absorb popped found absorbed nonneg exclusive
      exact timely home chosen fun id time origin dest sends => exclusive id time origin dest (kept sends)
    · intro chosen within
      apply relaying.prompt_absorb popped found absorbed nonneg
      · exact fun period member =>
          within period (List.mem_append_right _ (Option.mem_toList.2 member))
      · exact prompt chosen fun period member time origin dest overdue =>
          within period (List.mem_append_left _ member) time origin dest
            { overdue with sends := kept overdue.sends }

theorem Sequenced.advance (nonneg : 0 ≤ delay) (sequenced : simulation.Sequenced delay periods)
    (bound : Nat) :
    (simulation.advance registry limit bound).2.Sequenced delay
      (periods ++ simulation.periods registry limit bound) := by
  induction bound generalizing simulation periods with
  | zero => simpa [Simulation.advance, Simulation.periods] using sequenced
  | succ bound induction =>
      rw [Simulation.advance, Simulation.periods]
      cases stepped : simulation.step? registry limit with
      | none => simpa using sequenced
      | some outcome =>
          obtain ⟨fault, next⟩ := outcome
          have after := sequenced.step? nonneg stepped
          cases fault with
          | some fault => exact after
          | none =>
              simp only
              rw [← List.append_assoc]
              exact induction after

/-- Nothing changes when housekeeping and relays are dispatched. -/
theorem Sequenced.dispatched (sequenced : simulation.Sequenced delay periods)
    {dispatches : List Dispatch} (queue : next.queue = simulation.queue.dispatch dispatches)
    (datacenters : next.datacenters = simulation.datacenters)
    (brings : ∀ dispatch ∈ dispatches, dispatch.event = .housekeeping ∨
      ∃ host workload, dispatch.event = .submit host workload ∧ workload.IsRelay delay) :
    next.Sequenced delay periods := by
  obtain ⟨relaying, timely, prompt⟩ := sequenced
  have sends : next.SendsFrom = simulation.SendsFrom := by
    unfold SendsFrom
    rw [hosts_of_dispatched datacenters]
  have nothing (chosen : Selection) (Fine : Seconds → Prop) :
      ∀ dispatch ∈ dispatches,
        EventQueue.Supplies chosen Fine simulation.queue.now dispatch := by
    rintro dispatch member message ⟨delivers, -⟩
    rcases brings dispatch member with own | ⟨host, workload, submits, -⟩
    · cases own.symm.trans delivers
    · cases submits.symm.trans delivers
  constructor
  · apply relaying.dispatched queue datacenters
    intro dispatch member
    rcases brings dispatch member with own | ⟨host, workload, submits, relay⟩
    · rw [own]
      trivial
    · rw [submits]
      exact relay
  · intro home chosen exclusive
    have start : next.sliceStart home = simulation.sliceStart home := by
      rw [sliceStart, datacenters, sliceStart]
    rw [Exclusive, sends] at exclusive
    rw [start]
    exact (timely home chosen exclusive).dispatched queue datacenters relaying.ordered
      (nothing chosen _)
  · intro chosen within
    have before : ∀ period ∈ periods, ∀ time origin dest,
        simulation.Overdue delay period time origin dest → ¬ chosen time origin dest :=
      fun period member time origin dest overdue =>
        within period member time origin dest { overdue with sends := sends ▸ overdue.sends }
    exact (prompt chosen before).dispatched queue datacenters relaying.ordered (nothing chosen _)

theorem Sequenced.start (sequenced : simulation.Sequenced delay periods) :
    simulation.start.Sequenced delay periods := by
  rw [Simulation.start]
  split
  · exact sequenced
  · apply sequenced.dispatched
    · rfl
    · rfl
    · intro dispatch member
      obtain ⟨id, -, rfl⟩ := List.mem_map.1 member
      exact .inl rfl

/-- If two arrivals do not cross, their edges have one sender only, or the second one was not
overdue. -/
theorem Sequenced.inOrder_or_crossing (sequenced : simulation.Sequenced delay periods)
    {id : DatacenterId} {workload : Workload} (hosted : simulation.Hosts id workload)
    {early late : Arrival} (both : [early, late].Sublist workload.engine.arrivals)
    (apart : early.tick < late.tick) :
    early.time.rank ≤ late.time.rank ∨ simulation.Crossing delay periods early late := by
  obtain ⟨relaying, timely, prompt⟩ := sequenced
  obtain ⟨datacenter, present, housed⟩ := hosted
  have steady := (relaying.keeps id datacenter present).good workload housed
  obtain ⟨-, ⟨first, sendsFirst⟩, -⟩ :=
    steady.arrived early (both.subset List.mem_cons_self)
  obtain ⟨-, ⟨second, sendsSecond⟩, -⟩ :=
    steady.arrived late (both.subset (List.mem_cons_of_mem _ List.mem_cons_self))
  by_cases origins : ∃ first second, first ≠ second ∧
      simulation.SendsFrom first early.origin early.dest ∧
        simulation.SendsFrom second late.origin late.dest
  · by_cases overdue : ∃ period ∈ periods, late.Among (simulation.Overdue delay period)
    · exact .inr ⟨apart, origins, overdue⟩
    · let chosen : Selection := fun time origin dest =>
        time = late.time ∧ origin = late.origin ∧ dest = late.dest
      have within : ∀ period ∈ periods, ∀ time origin dest,
          simulation.Overdue delay period time origin dest → ¬ chosen time origin dest := by
        rintro period member time origin dest sent ⟨rfl, rfl, rfl⟩
        exact overdue ⟨period, member, sent⟩
      have sorted := ((prompt chosen within).orderly id workload
        ⟨datacenter, present, housed⟩).sorted
      exact .inl (List.pairwise_iff_forall_sublist.1 sorted both trivial ⟨rfl, rfl, rfl⟩)
  · -- then one datacenter is the only one that sends along either edge
    have alone {left right : DatacenterId}
        (sendsLeft : simulation.SendsFrom left early.origin early.dest)
        (sendsRight : simulation.SendsFrom right late.origin late.dest) : left = right := by
      by_contra different
      exact origins ⟨left, right, different, sendsLeft, sendsRight⟩
    let chosen : Selection := fun _ origin dest =>
      (origin = early.origin ∧ dest = early.dest) ∨ (origin = late.origin ∧ dest = late.dest)
    have exclusive : simulation.Exclusive first chosen := by
      rintro other - origin dest sends (⟨rfl, rfl⟩ | ⟨rfl, rfl⟩)
      · exact (alone sends sendsSecond).trans (alone sendsFirst sendsSecond).symm
      · exact (alone sendsFirst sends).symm
    have sorted := ((timely first chosen exclusive).orderly id workload
      ⟨datacenter, present, housed⟩).sorted
    exact .inl (List.pairwise_iff_forall_sublist.1 sorted both (.inl ⟨rfl, rfl⟩)
      (.inr ⟨rfl, rfl⟩))

theorem Sequenced.arrivals (sequenced : simulation.Sequenced delay periods) {id : DatacenterId}
    {workload : Workload} (hosted : simulation.Hosts id workload) :
    workload.engine.arrivals.Pairwise fun early late =>
      early.time ≤ late.time ∨ simulation.Crossing delay periods early late := by
  obtain ⟨datacenter, present, housed⟩ := hosted
  have steady := (sequenced.relaying.keeps id datacenter present).good workload housed
  rw [List.pairwise_iff_forall_sublist]
  intro early late both
  have left := (steady.arrived early (both.subset List.mem_cons_self)).1
  have right := (steady.arrived late
    (both.subset (List.mem_cons_of_mem _ List.mem_cons_self))).1
  rw [left.le_iff right]
  rcases List.pairwise_iff_forall_sublist.1 steady.ticks both with apart | ⟨-, inOrder⟩
  · exact sequenced.inOrder_or_crossing ⟨datacenter, present, housed⟩ both apart
  · exact .inl inOrder

end Runs

end CoSimulation.Simulation
