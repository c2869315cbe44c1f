import CoSimulation.Datacenter
import CoSimulation.Proofs.Scheduler

/-!
# Hosts between events

Between two events a host's lists are in order, its completions are collected, and
its last tick is not in the future.  It serves a vertex for a workload if it has the
workload and the workload executes the vertex, or if the workload was reclaimed.
-/

namespace CoSimulation

open Binary64

theorem Scheduler.WellFormed.collected {scheduler : Scheduler} (formed : scheduler.WellFormed) :
    scheduler.takeCompleted.2.WellFormed :=
  ⟨formed.running, formed.ended, formed.distinct, formed.signalled⟩

namespace Host

/-- What never changes about a host. -/
structure Layout where
  id : HostId
  mips : List Binary64
  gap : Seconds

def layout (host : Host) : Layout :=
  { id := host.id, mips := host.mips, gap := host.scheduler.gap }

/-- A host as it is found at `now`, between two events. -/
structure Lawful (host : Host) (now : Seconds) : Prop where
  formed : host.scheduler.WellFormed
  collected : host.scheduler.completed = []
  instant : host.scheduler.previous.IsInstant
  notLater : host.scheduler.previous.rank ≤ now.rank

/-- The host has a workload that executes the vertex, unless it was reclaimed. -/
def Serves (host : Host) (vertex : VertexId) (workload : WorkloadId) : Prop :=
  workload ∈ host.scheduler.reclaimed ∨
    ∃ found ∈ host.scheduler.workloads,
      found.id = workload ∧ found.placement.executes vertex = true

theorem Serves.contained {host : Host} {vertex : VertexId} {workload : WorkloadId}
    (formed : host.scheduler.WellFormed) (serves : host.Serves vertex workload) :
    workload ∈ host.scheduler.identities := by
  rw [formed.identities_eq, List.mem_append]
  rcases serves with reclaimed | ⟨found, member, named, -⟩
  · exact .inr reclaimed
  · exact .inl (named ▸ List.mem_map_of_mem member)

theorem lawful_create (id : HostId) (mips : List Binary64) (gap : Seconds) {now : Seconds}
    (clock : now.IsInstant) : (create id mips gap).Lawful now where
  formed := Scheduler.wellFormed_create gap
  collected := rfl
  instant := isInstant_zero
  notLater := by
    change (0 : Seconds).rank ≤ now.rank
    rw [rank_zero]
    exact clock.rank_nonneg

theorem Lawful.later {host : Host} {now later : Seconds} (lawful : host.Lawful now)
    (after : now.rank ≤ later.rank) : host.Lawful later :=
  ⟨lawful.formed, lawful.collected, lawful.instant, Int.le_trans lawful.notLater after⟩

/-- The clock has not fallen behind the last tick. -/
theorem Lawful.monotone {host : Host} {now : Seconds} (lawful : host.Lawful now)
    (clock : now.IsInstant) : ¬ now < host.scheduler.previous := fun less => by
  have before := (clock.lt_iff lawful.instant).1 less
  have after := lawful.notLater
  omega

/-! ## Ticks -/

section Tick

variable {host : Host} {network : Network} {now : Seconds}

/-- The host after a tick whose completions are collected. -/
def ticked (host : Host) (network : Network) (time : Seconds) : Host :=
  (host.tick network time).state.collected

@[simp] theorem ticked_layout (time : Seconds) : (host.ticked network time).layout = host.layout := by
  simp [layout, ticked, tick, collected, Scheduler.takeCompleted]

theorem ticked_workloads (formed : host.scheduler.WellFormed) (time : Seconds) :
    (host.ticked network time).scheduler.workloads.Perm
      (host.scheduler.turned network time host.mips ++ host.scheduler.finished.values) :=
  formed.filed.tick_workloads

theorem ticked_identities (formed : host.scheduler.WellFormed) (time : Seconds) :
    (host.ticked network time).scheduler.identities.Perm host.scheduler.identities :=
  formed.filed.tick_identities

/-- Every workload that ends in a tick is signalled in it. -/
theorem ticked_settled (lawful : host.Lawful now) (time : Seconds) :
    (host.ticked network time).scheduler.settled.Perm
      ((host.tick network time).state.scheduler.completed ++ host.scheduler.settled) := by
  have completed : (host.tick network time).state.scheduler.completed =
      (host.scheduler.ending network time host.mips).map Workload.id := by
    have all : (host.scheduler.tick network time host.mips).state.completed =
        host.scheduler.completed ++ (host.scheduler.ending network time host.mips).map
          Workload.id := lawful.formed.tick_completed
    rw [lawful.collected] at all
    exact all
  rw [completed]
  exact lawful.formed.filed.tick_settled

theorem Lawful.ticked (lawful : host.Lawful now) {time : Seconds} (instant : time.IsInstant) :
    (host.ticked network time).Lawful time where
  formed := lawful.formed.tick.collected
  collected := rfl
  instant := by
    simp only [Host.ticked, tick, Host.collected, Scheduler.takeCompleted,
      Scheduler.tick_previous]
    exact instant
  notLater := by
    simp only [Host.ticked, tick, Host.collected, Scheduler.takeCompleted,
      Scheduler.tick_previous]
    exact Int.le_refl _

theorem Serves.ticked (formed : host.scheduler.WellFormed) {vertex : VertexId}
    {workload : WorkloadId} (serves : host.Serves vertex workload) (time : Seconds) :
    (host.ticked network time).Serves vertex workload := by
  rcases serves with reclaimed | ⟨found, member, named, executes⟩
  · apply Or.inl
    simp only [Host.ticked, tick, collected, Scheduler.takeCompleted, Scheduler.tick_reclaimed]
    exact reclaimed
  · apply Or.inr
    have every {other : Workload} :
        other ∈ (host.ticked network time).scheduler.workloads ↔
          other ∈ host.scheduler.turned network time host.mips ++
            host.scheduler.finished.values :=
      (ticked_workloads formed time).mem_iff
    rcases List.mem_append.1 member with active | finished
    · -- the workload is the same after its turn as far as its terms go
      let turned := found.turn network time host.scheduler.previous
        (host.scheduler.capacity host.mips)
      have kept : turned.workload.terms = found.terms := found.terms_turn _ _ _ _
      refine ⟨turned.workload, every.2 (List.mem_append_left _ ?_), ?_, ?_⟩
      · rw [Scheduler.turned_eq]
        exact List.mem_map_of_mem active
      · rw [Workload.id_eq_of_terms kept, named]
      · rw [Workload.placement_eq_of_terms kept, executes]
    · exact ⟨found, every.2 (List.mem_append_right _ finished), named, executes⟩

end Tick

/-! ## A workload more, a message more, a workload less -/

section Changes

variable {host : Host} {now : Seconds} {next : Scheduler}

theorem Lawful.submit (lawful : host.Lawful now) {workload : Workload} {estimate : Seconds}
    (running : workload.finished = false)
    (taken : host.scheduler.submit workload = .ok (estimate, next)) :
    ({ host with scheduler := next } : Host).Lawful now := by
  have formed := lawful.formed.submit running taken
  obtain ⟨-, -, rfl⟩ := Scheduler.submit_eq_ok taken
  exact ⟨formed, lawful.collected, lawful.instant, lawful.notLater⟩

theorem Serves.submit {vertex : VertexId} {id : WorkloadId} (serves : host.Serves vertex id)
    {workload : Workload} {estimate : Seconds}
    (taken : host.scheduler.submit workload = .ok (estimate, next)) :
    ({ host with scheduler := next } : Host).Serves vertex id := by
  obtain ⟨-, -, rfl⟩ := Scheduler.submit_eq_ok taken
  rcases serves with reclaimed | ⟨found, member, named, executes⟩
  · exact .inl reclaimed
  · refine .inr ⟨found, ?_, named, executes⟩
    rcases List.mem_append.1 member with active | finished
    · exact List.mem_append_left _ (List.mem_append_left _ active)
    · exact List.mem_append_right _ finished

/-- A workload that was taken in is served at all its vertices. -/
theorem serves_of_submit {vertex : VertexId} {workload : Workload} {estimate : Seconds}
    (taken : host.scheduler.submit workload = .ok (estimate, next))
    (executes : workload.placement.executes vertex = true) :
    ({ host with scheduler := next } : Host).Serves vertex workload.id := by
  obtain ⟨-, -, rfl⟩ := Scheduler.submit_eq_ok taken
  refine .inr ⟨workload, ?_, rfl, executes⟩
  exact List.mem_append_left _ (List.mem_append_right _ List.mem_cons_self)

theorem Lawful.deliver (lawful : host.Lawful now) {id : WorkloadId} {message : Message}
    (delivered : Scheduler.Delivered host.scheduler id message next) :
    ({ host with scheduler := next } : Host).Lawful now where
  formed := delivered.formed
  collected := delivered.completed.trans lawful.collected
  instant := by
    change next.previous.IsInstant
    rw [delivered.previous]
    exact lawful.instant
  notLater := by
    change next.previous.rank ≤ now.rank
    rw [delivered.previous]
    exact lawful.notLater

theorem Serves.deliver {vertex : VertexId} {id other : WorkloadId} {message : Message}
    (serves : host.Serves vertex other)
    (delivered : Scheduler.Delivered host.scheduler id message next) :
    ({ host with scheduler := next } : Host).Serves vertex other := by
  rcases serves with reclaimed | ⟨found, member, named, executes⟩
  · apply Or.inl
    change other ∈ next.reclaimed
    rw [delivered.reclaimed]
    exact reclaimed
  · have present : ∃ kept ∈ next.workloads, kept.terms = found.terms := by
      rcases delivered.mem_workloads member with same | received
      · exact ⟨found, same, rfl⟩
      · exact ⟨_, received, found.terms_receive message⟩
    obtain ⟨kept, here, terms⟩ := present
    exact .inr ⟨kept, here, (Workload.id_eq_of_terms terms).trans named,
      by rw [Workload.placement_eq_of_terms terms, executes]⟩

theorem Lawful.reclaim (lawful : host.Lawful now) {id : WorkloadId} {workload : Workload}
    (handed : Scheduler.HandedBack host.scheduler id workload next) :
    ({ host with scheduler := next } : Host).Lawful now where
  formed := handed.wellFormed lawful.formed
  collected := handed.completed.trans lawful.collected
  instant := by
    change next.previous.IsInstant
    rw [handed.previous]
    exact lawful.instant
  notLater := by
    change next.previous.rank ≤ now.rank
    rw [handed.previous]
    exact lawful.notLater

theorem Serves.reclaim {vertex : VertexId} {id other : WorkloadId} {workload : Workload}
    (formed : host.scheduler.WellFormed) (serves : host.Serves vertex other)
    (handed : Scheduler.HandedBack host.scheduler id workload next) :
    ({ host with scheduler := next } : Host).Serves vertex other := by
  rcases serves with reclaimed | ⟨found, member, named, executes⟩
  · apply Or.inl
    change other ∈ next.reclaimed
    rw [handed.reclaimed]
    exact List.mem_cons_of_mem _ reclaimed
  · rcases List.mem_cons.1 (handed.workloads.mem_iff.1 member) with same | stays
    · subst same
      apply Or.inl
      change other ∈ next.reclaimed
      rw [handed.reclaimed, ← named, (formed.ended id found handed.present).1]
      exact List.mem_cons_self
    · exact .inr ⟨found, stays, named, executes⟩

end Changes

end Host

end CoSimulation
