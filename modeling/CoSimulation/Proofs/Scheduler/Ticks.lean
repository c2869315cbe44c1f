import CoSimulation.Proofs.Lifecycle.Signals

/-!
# Ticks of a scheduler

In a tick every running workload takes its turn, and what the turn makes of it depends on
the workload, its slice and the network only.  The scheduler does nothing but collect what
the turns leave: it sets aside those that have finished and counts.  So no workload
notices what another one does, and the order in which they run shows nowhere but in the
order of what is sent and reported.
-/

namespace CoSimulation

/-- Tables that answer every look-up alike are equal. -/
theorem Table.ext_get? {α : Type} {left right : Table α}
    (same : ∀ key value, left.get? key = some value ↔ right.get? key = some value) :
    left = right := by
  have nodup (table : Table α) : table.entries.Nodup := by
    refine table.ascending.imp fun {first second} less equal => ?_
    exact Nat.lt_irrefl _ (equal ▸ less)
  have permuted : left.entries.Perm right.entries := by
    rw [List.perm_ext_iff_of_nodup (nodup left) (nodup right)]
    rintro ⟨key, value⟩
    rw [Table.mem_entries, Table.mem_entries, same]
  apply Table.ext_entries
  refine permuted.eq_of_pairwise (fun first second _ _ less more => ?_)
    left.ascending right.ascending
  exact absurd (Nat.lt_trans less more) (Nat.lt_irrefl _)

theorem sumOf_perm {left right : List Nat} (permuted : left.Perm right) :
    sumOf left = sumOf right := by
  induction permuted with
  | nil => rfl
  | cons _ _ induction => rw [sumOf, sumOf, induction]
  | swap => exact Nat.add_left_comm _ _ _
  | trans _ _ first second => exact first.trans second

/-- What a workload leaves behind when it ticks once and, if that succeeds, forwards exactly
the records it has returned. -/
inductive Workload.Takes (workload : Workload) (network : Network) (slice : Slice) :
    Turn → Prop where
  | stopped {fault : Fault} {next : Workload}
      (ticked : workload.tick slice = (.error fault, next)) :
      Takes workload network slice
        { workload := next, dispatches := [], granted := slice.instructions, records := 0
          fault := some fault }
  | stranded {records : List Record} {next last : Workload} {dispatches : List Dispatch}
      {fault : Fault} (ticked : workload.tick slice = (.ok records, next))
      (forwarded : next.forward network records =
        { state := last, dispatches := dispatches, result := .error fault }) :
      Takes workload network slice
        { workload := last, dispatches := dispatches, granted := slice.instructions
          records := records.length, fault := some fault }
  | completed {records : List Record} {next last : Workload} {dispatches : List Dispatch}
      {sent : Nat} (ticked : workload.tick slice = (.ok records, next))
      (forwarded : next.forward network records =
        { state := last, dispatches := dispatches, result := .ok sent }) :
      Takes workload network slice
        { workload := last, dispatches := dispatches, granted := slice.instructions
          records := records.length, fault := none }

theorem Workload.takes_turn (workload : Workload) (network : Network) (time previous : Seconds)
    (capacity : Binary64) :
    workload.Takes network (workload.sliceOf time previous capacity)
      (workload.turn network time previous capacity) := by
  simp only [turn]
  rw [← sliceOf]
  split
  · rename_i ticked
    exact .stopped ticked
  · rename_i records next ticked
    split
    · rename_i fault failed
      exact .stranded ticked (by rw [← failed])
    · rename_i sent succeeded
      exact .completed ticked (by rw [← succeeded])

namespace Scheduler

/-! ## Looking workloads up -/

theorem Filed.workload?_eq_some {scheduler : Scheduler} (filed : scheduler.Filed)
    {id : WorkloadId} {workload : Workload} :
    scheduler.workload? id = some workload ↔ workload ∈ scheduler.workloads ∧ workload.id = id := by
  rw [workload?, workloads, List.mem_append]
  split
  · rename_i found first
    have named : found.id = id := by simpa using List.find?_some first
    have active := List.mem_of_find?_eq_some first
    constructor
    · intro same
      cases same
      exact ⟨.inl active, named⟩
    · rintro ⟨running | kept, same⟩
      · have distinct := (List.nodup_append.1 filed.distinct).1
        exact congrArg some
          (List.inj_on_of_nodup_map distinct active running (named.trans same.symm))
      · obtain ⟨key, present⟩ := Table.mem_values.1 kept
        have settled : found.id ∈ scheduler.settled := by
          rw [named, ← same, (filed.ended key workload present).1]
          exact List.mem_append_left _ (Table.mem_keys.2 ⟨workload, present⟩)
        exact absurd settled (filed.apart (List.mem_map_of_mem active))
  · rename_i inactive
    constructor
    · intro present
      exact ⟨.inr (Table.mem_values.2 ⟨id, present⟩), (filed.ended id workload present).1⟩
    · rintro ⟨running | kept, rfl⟩
      · exact absurd (beq_self_eq_true workload.id) (List.find?_eq_none.1 inactive workload running)
      · obtain ⟨key, present⟩ := Table.mem_values.1 kept
        rw [(filed.ended key workload present).1]
        exact present

/-! ## What retiring counts -/

theorem retireAll_completed_eq {scheduler : Scheduler} {done : List Workload}
    (distinct : (done.map Workload.id).Nodup) :
    let fresh := (done.map Workload.id).filter (fun id => !scheduler.signalled.contains id)
    (done.foldl retire scheduler).completed = scheduler.completed ++ fresh ∧
      (done.foldl retire scheduler).counters =
        { scheduler.counters with
          completions := scheduler.counters.completions + fresh.length } := by
  induction done generalizing scheduler with
  | nil => simp
  | cons workload done induction =>
      obtain ⟨new, rest⟩ := List.nodup_cons.1 distinct
      obtain ⟨completed, counters⟩ := @induction (scheduler.retire workload) rest
      -- the first workload is not among the others, so its signal changes nothing for them
      have others : (done.map Workload.id).filter
            (fun id => !(scheduler.retire workload).signalled.contains id) =
          (done.map Workload.id).filter (fun id => !scheduler.signalled.contains id) := by
        apply List.filter_congr
        intro id member
        have different : id ≠ workload.id := fun same => new (same ▸ member)
        rw [retire, signal]
        split
        · rfl
        · simp [different]
      rw [List.foldl_cons, completed, counters, others, retire, signal]
      by_cases known : workload.id ∈ scheduler.signalled
      · simp [known]
      · simp [known, Nat.add_assoc, Nat.add_comm]

/-! ## What a tick does -/

/-- Every running workload took its turn, and this is what the scheduler made of it. -/
structure Ticked (before : Scheduler) (network : Network) (time : Seconds)
    (mips : List Binary64) (turns : List Turn) (reaction : Reaction Scheduler (Option Seconds)) :
    Prop where
  taken : List.Forall₂ (fun workload turn =>
    workload.Takes network (workload.sliceOf time before.previous (before.capacity mips)) turn)
    before.active turns
  /-- Each workload is found as its own turn has left it. -/
  kept : List.Forall₂ (fun workload turn =>
    reaction.state.workload? workload.id = some turn.workload) before.active turns
  /-- The others are found as they were. -/
  untouched : ∀ id, id ∉ before.active.map Workload.id →
    reaction.state.workload? id = before.workload? id
  reclaimed : reaction.state.reclaimed = before.reclaimed
  previous : reaction.state.previous = time
  active : reaction.state.active =
    (turns.map Turn.workload).filter fun workload => !workload.finished
  finished : ∀ id workload, reaction.state.finished.get? id = some workload ↔
    (workload ∈ turns.map Turn.workload ∧ workload.finished = true ∧ workload.id = id) ∨
      before.finished.get? id = some workload
  completed : reaction.state.completed = before.completed ++
    (((turns.map Turn.workload).filter Workload.finished).map Workload.id).filter
      fun id => !before.signalled.contains id
  counters : reaction.state.counters =
    { before.counters with
      ticks := before.counters.ticks + 1
      workloadTicks := before.counters.workloadTicks + before.active.length
      granted := before.counters.granted + sumOf (turns.map Turn.granted)
      records := before.counters.records + sumOf (turns.map Turn.records)
      completions := before.counters.completions +
        ((((turns.map Turn.workload).filter Workload.finished).map Workload.id).filter
          fun id => !before.signalled.contains id).length
      faults := before.counters.faults + (turns.filterMap Turn.fault).length }
  dispatches : reaction.dispatches = turns.flatMap Turn.dispatches
  fails : (∃ fault, reaction.result = .error fault) ↔ ∃ turn ∈ turns, turn.fault.isSome = true
  wakes : ∀ wakeUp, reaction.result = .ok wakeUp → (wakeUp = none ↔ reaction.state.active = [])

section Tick

variable {scheduler : Scheduler} {network : Network} {time : Seconds} {mips : List Binary64}

variable (network time mips) in
theorem tick_counters (filed : scheduler.Filed) :
    let fresh := ((scheduler.ending network time mips).map Workload.id).filter
      (fun id => !scheduler.signalled.contains id)
    (scheduler.tick network time mips).state.completed = scheduler.completed ++ fresh ∧
      (scheduler.tick network time mips).state.counters =
        { (scheduler.advanced network time mips).counters with
          completions := scheduler.counters.completions + fresh.length } :=
  retireAll_completed_eq filed.ending_distinct

theorem least?_eq_none {numbers : List Binary64} : least? numbers = none ↔ numbers = [] := by
  cases numbers with
  | nil => exact ⟨fun _ => rfl, fun _ => rfl⟩
  | cons first rest => simp [least?]

theorem Filed.tick_get?_finished (filed : scheduler.Filed) {id : WorkloadId}
    {workload : Workload} :
    (scheduler.tick network time mips).state.finished.get? id = some workload ↔
      (workload ∈ scheduler.turned network time mips ∧ workload.finished = true ∧
        workload.id = id) ∨ scheduler.finished.get? id = some workload := by
  rw [← Table.mem_entries, filed.tick_finished.mem_iff, List.mem_append, Table.mem_entries]
  apply or_congr_left
  rw [ending, List.mem_map]
  constructor
  · rintro ⟨ended, ends, same⟩
    cases same
    exact ⟨(List.mem_filter.1 ends).1, (List.mem_filter.1 ends).2, rfl⟩
  · rintro ⟨turned, ended, rfl⟩
    exact ⟨workload, List.mem_filter.2 ⟨turned, ended⟩, rfl⟩

theorem Filed.tick_workload? (filed : scheduler.Filed) {id : WorkloadId} {workload : Workload} :
    (scheduler.tick network time mips).state.workload? id = some workload ↔
      (workload ∈ scheduler.turned network time mips ∨ workload ∈ scheduler.finished.values) ∧
        workload.id = id := by
  rw [filed.tick.workload?_eq_some, filed.tick_workloads.mem_iff, List.mem_append]

theorem Filed.tick_untouched (filed : scheduler.Filed) {id : WorkloadId}
    (inactive : id ∉ scheduler.active.map Workload.id) :
    (scheduler.tick network time mips).state.workload? id = scheduler.workload? id := by
  have still (workload : Workload) :
      (scheduler.tick network time mips).state.workload? id = some workload ↔
        scheduler.workload? id = some workload := by
    rw [filed.tick_workload?, filed.workload?_eq_some, workloads, List.mem_append]
    apply and_congr_left
    rintro rfl
    apply or_congr_left
    have turned := scheduler.turned_ids network time mips
    constructor
    · exact fun member => absurd (turned ▸ List.mem_map_of_mem member) inactive
    · exact fun member => absurd (List.mem_map_of_mem member) inactive
  exact Option.ext still

theorem tick_eq_error {fault : Fault} :
    (scheduler.tick network time mips).result = .error fault ↔
      Fault.worst? ((scheduler.turns network time mips).filterMap Turn.fault) = some fault :=
  reportWorst_eq_error_iff

theorem tick_fails :
    (∃ fault, (scheduler.tick network time mips).result = .error fault) ↔
      ∃ turn ∈ scheduler.turns network time mips, turn.fault.isSome = true := by
  simp only [tick_eq_error, ← Option.isSome_iff_exists]
  rw [Option.isSome_iff_ne_none, ne_eq, Fault.worst?_eq_none, List.filterMap_eq_nil_iff]
  simp [Option.isSome_iff_ne_none]

theorem Filed.ticked (filed : scheduler.Filed) (network : Network) (time : Seconds)
    (mips : List Binary64) :
    scheduler.Ticked network time mips (scheduler.turns network time mips)
      (scheduler.tick network time mips) where
  taken := by
    rw [turns, List.forall₂_map_right_iff]
    exact List.forall₂_same.2 fun workload _ => workload.takes_turn _ _ _ _
  kept := by
    rw [turns, List.forall₂_map_right_iff]
    refine List.forall₂_same.2 fun workload running => filed.tick_workload?.2 ⟨.inl ?_, ?_⟩
    · rw [turned_eq]
      exact List.mem_map_of_mem running
    · exact Workload.id_eq_of_terms (workload.terms_turn _ _ _ _)
  untouched _ := filed.tick_untouched
  reclaimed := tick_reclaimed ..
  previous := tick_previous ..
  active := tick_active ..
  finished _ _ := filed.tick_get?_finished
  completed := (tick_counters network time mips filed).1
  counters := by
    rw [(tick_counters network time mips filed).2, advanced, turns, List.length_map]
    rfl
  dispatches := rfl
  fails := tick_fails
  wakes := by
    intro wakeUp succeeded
    have asked := (reportWorst_eq_ok_iff.1 succeeded).2
    rw [asked, least?_eq_none, List.map_eq_nil_iff]
    rfl

/-! ## The order of the running workloads -/

/-- Two ticks have the same effect on every workload and on the whole. -/
structure Alike (left right : Reaction Scheduler (Option Seconds)) : Prop where
  workload? : ∀ id, left.state.workload? id = right.state.workload? id
  active : left.state.active.Perm right.state.active
  finished : left.state.finished = right.state.finished
  reclaimed : left.state.reclaimed = right.state.reclaimed
  signalled : ∀ id, id ∈ left.state.signalled ↔ id ∈ right.state.signalled
  completed : left.state.completed.Perm right.state.completed
  previous : left.state.previous = right.state.previous
  gap : left.state.gap = right.state.gap
  lastCapacity : left.state.lastCapacity = right.state.lastCapacity
  counters : left.state.counters = right.state.counters
  dispatches : left.dispatches.Perm right.dispatches
  fails : (∃ fault, left.result = .error fault) ↔ ∃ fault, right.result = .error fault

section Order

variable {active : List Workload}

theorem Filed.reorder (filed : scheduler.Filed) (permuted : active.Perm scheduler.active) :
    ({ scheduler with active := active } : Scheduler).Filed where
  ended := filed.ended
  distinct := ((permuted.map Workload.id).append_right _).nodup_iff.2 filed.distinct

theorem capacity_perm (permuted : active.Perm scheduler.active) (mips : List Binary64) :
    ({ scheduler with active := active } : Scheduler).capacity mips =
      scheduler.capacity mips := by
  rw [capacity, capacity]
  dsimp only
  rw [sumOf_perm (permuted.map Workload.pes)]

theorem turns_perm (permuted : active.Perm scheduler.active) :
    (({ scheduler with active := active } : Scheduler).turns network time mips).Perm
      (scheduler.turns network time mips) := by
  rw [turns, turns, capacity_perm permuted]
  exact permuted.map _

theorem tick_lastCapacity :
    (scheduler.tick network time mips).state.lastCapacity = scheduler.capacity mips := by
  obtain ⟨_, _, _, _, same⟩ := retireAll_eq (scheduler.advanced network time mips)
    (scheduler.ending network time mips)
  rw [tick_state, same]
  rfl

theorem Filed.tick_perm (filed : scheduler.Filed) (permuted : active.Perm scheduler.active)
    (network : Network) (time : Seconds) (mips : List Binary64) :
    Alike (({ scheduler with active := active } : Scheduler).tick network time mips)
      (scheduler.tick network time mips) := by
  let other : Scheduler := { scheduler with active := active }
  have reordered : other.Filed := filed.reorder permuted
  have turns : (other.turns network time mips).Perm (scheduler.turns network time mips) :=
    turns_perm permuted
  have turned : (other.turned network time mips).Perm (scheduler.turned network time mips) :=
    turns.map Turn.workload
  have ending : ((other.ending network time mips).map Workload.id).Perm
      ((scheduler.ending network time mips).map Workload.id) :=
    (turned.filter Workload.finished).map Workload.id
  have fresh := ending.filter fun id => !scheduler.signalled.contains id
  obtain ⟨completedLeft, countersLeft⟩ :=
    tick_counters network time mips reordered
  obtain ⟨completedRight, countersRight⟩ :=
    tick_counters network time mips filed
  constructor
  · intro id
    apply Option.ext
    intro workload
    rw [filed.tick_workload?, reordered.tick_workload?, turned.mem_iff]
  · rw [tick_active, tick_active]
    exact turned.filter _
  · apply Table.ext_get?
    intro id workload
    rw [filed.tick_get?_finished, reordered.tick_get?_finished, turned.mem_iff]
  · rw [tick_reclaimed, tick_reclaimed]
  · intro id
    rw [mem_tick_signalled, mem_tick_signalled, ending.mem_iff]
  · rw [completedLeft, completedRight]
    exact fresh.append_left _
  · rw [tick_previous, tick_previous]
  · rw [tick_gap, tick_gap]
  · rw [tick_lastCapacity, tick_lastCapacity, capacity_perm permuted]
  · rw [countersLeft, countersRight, advanced, advanced, fresh.length_eq, turns.length_eq,
      sumOf_perm (turns.map Turn.granted), sumOf_perm (turns.map Turn.records),
      (turns.filterMap Turn.fault).length_eq]
  · exact turns.flatMap_right _
  · rw [tick_fails, tick_fails]
    exact exists_congr fun turn => and_congr_left' turns.mem_iff

end Order

end Tick

/-- In a tick of a scheduler that has performed any requests, every running workload does
what it would do alone, and their order matters to none of them. -/
theorem tick_ticked (gap : Seconds) (requests : List Request) (network : Network)
    (time : Seconds) (mips : List Binary64) :
    let scheduler := (create gap).after requests
    let reaction := scheduler.tick network time mips
    (∃ turns, scheduler.Ticked network time mips turns reaction) ∧
      ∀ active : List Workload, active.Perm scheduler.active →
        Alike (({ scheduler with active := active } : Scheduler).tick network time mips)
          reaction := by
  intro scheduler reaction
  have filed : scheduler.Filed := ((accounted_create gap).after requests).filed
  exact ⟨⟨_, filed.ticked network time mips⟩,
    fun active permuted => filed.tick_perm permuted network time mips⟩

/-- One workload that ends with the tick, one that sends to a vertex nobody has placed, and
one that goes on. -/
def crowd : List Workload :=
  [Workload.create 1 (Placement.unpinned [1] 1) (Engine.fresh 1 (Engine.relay [])),
    (Workload.create 2 (Placement.unpinned [2] 5)
      (Engine.fresh 2 (Engine.relay [(2, 9)]))).withTransport (.networked 1),
    Workload.create 3 (Placement.unpinned [3] 5) (Engine.fresh 3 (Engine.relay []))]

theorem tick_ticked_crowd :
    let scheduler := (create 1).after (crowd.map .submit)
    let network : Network := { registry := Registry.empty, now := 2 }
    let reaction := scheduler.tick network 2 [1]
    crowd.reverse.Perm scheduler.active ∧
      reaction.result = .error (.unresolvedDestination 9) ∧
      reaction.state.finished.keys = [1] ∧ reaction.state.active.map Workload.id = [2, 3] ∧
      Alike (({ scheduler with active := crowd.reverse } : Scheduler).tick network 2 [1])
        reaction := by
  intro scheduler network reaction
  have permuted : crowd.reverse.Perm scheduler.active := List.reverse_perm crowd
  have raised : Fault.worst? ((scheduler.turns network 2 [1]).filterMap Turn.fault) =
      some (.unresolvedDestination 9) := by
    decide +kernel
  exact ⟨permuted, tick_eq_error.2 raised, by decide +kernel, by decide +kernel,
    (tick_ticked 1 (crowd.map .submit) network 2 [1]).2 _ permuted⟩

end Scheduler

end CoSimulation
