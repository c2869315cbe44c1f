import CoSimulation.Proofs.Faults
import CoSimulation.Proofs.Table
import CoSimulation.Proofs.Workload

/-!
# The lists of a host scheduler

A workload that was submitted to a scheduler is running, finished or reclaimed, and
it is so once.  Ticks move workloads from the running to the finished ones and
signal each of them; deliveries change one workload in its place; a reclaimed
workload is remembered by its identity.
-/

namespace CoSimulation

namespace Scheduler

/-- The workloads that have ended, reclaimed or not. -/
def settled (scheduler : Scheduler) : List WorkloadId :=
  scheduler.finished.keys ++ scheduler.reclaimed

/-- The workloads that were ever submitted here. -/
def identities (scheduler : Scheduler) : List WorkloadId :=
  scheduler.active.map Workload.id ++ scheduler.settled

def workloads (scheduler : Scheduler) : List Workload :=
  scheduler.active ++ scheduler.finished.values

/-- The lists of a scheduler are disjoint and mean what they say, and exactly the
workloads that have ended are signalled. -/
structure WellFormed (scheduler : Scheduler) : Prop where
  running : ∀ workload ∈ scheduler.active, workload.finished = false
  ended : ∀ id workload, scheduler.finished.get? id = some workload →
    workload.id = id ∧ workload.finished = true
  distinct : scheduler.identities.Nodup
  signalled : ∀ id, id ∈ scheduler.signalled ↔ id ∈ scheduler.settled

/-- The lists are disjoint, and what has finished is kept under its identity. -/
structure Filed (scheduler : Scheduler) : Prop where
  ended : ∀ id workload, scheduler.finished.get? id = some workload →
    workload.id = id ∧ workload.finished = true
  distinct : scheduler.identities.Nodup

theorem WellFormed.filed {scheduler : Scheduler} (formed : scheduler.WellFormed) :
    scheduler.Filed := ⟨formed.ended, formed.distinct⟩

theorem wellFormed_create (gap : Seconds) : (create gap).WellFormed where
  running := by simp [create]
  ended := by simp [create]
  distinct := List.nodup_nil
  signalled := by simp [create, settled, Table.keys, Table.empty]

theorem contains_iff {scheduler : Scheduler} {id : WorkloadId} :
    scheduler.contains id = true ↔ id ∈ scheduler.identities := by
  simp [contains, isActive, identities, settled, Table.contains_iff, or_assoc]

/-- The finished workloads are kept under their identities. -/
theorem WellFormed.finished_ids {scheduler : Scheduler} (formed : scheduler.WellFormed) :
    scheduler.finished.values.map Workload.id = scheduler.finished.keys := by
  simp only [Table.values, Table.keys, List.map_map]
  apply List.map_congr_left
  intro entry member
  exact (formed.ended entry.1 entry.2 (Table.mem_entries.1 member)).1

theorem WellFormed.identities_eq {scheduler : Scheduler} (formed : scheduler.WellFormed) :
    scheduler.identities = scheduler.workloads.map Workload.id ++ scheduler.reclaimed := by
  rw [workloads, List.map_append, formed.finished_ids, identities, settled, List.append_assoc]

/-! ## Setting workloads aside -/

section Retiring

variable {scheduler : Scheduler} {done : List Workload}

/-- Setting workloads aside touches the finished ones, the signals and their counter. -/
theorem retireAll_eq (scheduler : Scheduler) (done : List Workload) :
    ∃ finished signalled completed completions,
      done.foldl retire scheduler =
        { scheduler with
          finished := finished, signalled := signalled, completed := completed
          counters := { scheduler.counters with completions := completions } } := by
  induction done generalizing scheduler with
  | nil => exact ⟨_, _, _, _, rfl⟩
  | cons workload done induction =>
      obtain ⟨finished, signalled, completed, completions, rest⟩ :=
        induction (scheduler.retire workload)
      refine ⟨finished, signalled, completed, completions, rest.trans ?_⟩
      rw [retire, signal]
      split <;> rfl

@[simp] theorem retireAll_active :
    (done.foldl retire scheduler).active = scheduler.active := by
  obtain ⟨_, _, _, _, same⟩ := retireAll_eq scheduler done
  rw [same]

@[simp] theorem retireAll_reclaimed :
    (done.foldl retire scheduler).reclaimed = scheduler.reclaimed := by
  obtain ⟨_, _, _, _, same⟩ := retireAll_eq scheduler done
  rw [same]

@[simp] theorem retireAll_previous :
    (done.foldl retire scheduler).previous = scheduler.previous := by
  obtain ⟨_, _, _, _, same⟩ := retireAll_eq scheduler done
  rw [same]

@[simp] theorem retireAll_gap : (done.foldl retire scheduler).gap = scheduler.gap := by
  obtain ⟨_, _, _, _, same⟩ := retireAll_eq scheduler done
  rw [same]

@[simp] theorem retireAll_reclaims :
    (done.foldl retire scheduler).counters.reclaims = scheduler.counters.reclaims := by
  obtain ⟨_, _, _, _, same⟩ := retireAll_eq scheduler done
  rw [same]

/-- The workloads are new to the finished ones, and no two of them are the same. -/
structure Retirable (scheduler : Scheduler) (done : List Workload) : Prop where
  distinct : (done.map Workload.id).Nodup
  unsignalled : ∀ workload ∈ done, workload.id ∉ scheduler.signalled
  absent : ∀ workload ∈ done, scheduler.finished.get? workload.id = none

theorem retire_of_unsignalled {workload : Workload}
    (unsignalled : workload.id ∉ scheduler.signalled) :
    scheduler.retire workload =
      { scheduler with
        finished := scheduler.finished.insert workload.id workload
        signalled := workload.id :: scheduler.signalled
        completed := scheduler.completed ++ [workload.id]
        counters :=
          { scheduler.counters with completions := scheduler.counters.completions + 1 } } := by
  rw [retire, signal, if_neg (by simpa using unsignalled)]

theorem Retirable.tail {workload : Workload}
    (retirable : Retirable scheduler (workload :: done)) :
    Retirable (scheduler.retire workload) done := by
  obtain ⟨distinct, unsignalled, absent⟩ := retirable
  rw [List.map_cons, List.nodup_cons] at distinct
  have different : ∀ other ∈ done, other.id ≠ workload.id := fun other member same =>
    distinct.1 (same ▸ List.mem_map_of_mem member)
  rw [retire_of_unsignalled (unsignalled workload List.mem_cons_self)]
  refine ⟨distinct.2, fun other member => ?_, fun other member => ?_⟩
  · simp only [List.mem_cons, not_or]
    exact ⟨different other member, unsignalled other (List.mem_cons_of_mem _ member)⟩
  · simp only [Table.get?_insert, if_neg (different other member)]
    exact absent other (List.mem_cons_of_mem _ member)

theorem retireAll_completed (retirable : Retirable scheduler done) :
    (done.foldl retire scheduler).completed =
      scheduler.completed ++ done.map Workload.id := by
  induction done generalizing scheduler with
  | nil => simp
  | cons workload done induction =>
      rw [List.foldl_cons, induction retirable.tail,
        retire_of_unsignalled (retirable.unsignalled workload List.mem_cons_self)]
      simp

theorem mem_retireAll_signalled {id : WorkloadId} :
    id ∈ (done.foldl retire scheduler).signalled ↔
      id ∈ done.map Workload.id ∨ id ∈ scheduler.signalled := by
  induction done generalizing scheduler with
  | nil => simp
  | cons workload done induction =>
      have first : id ∈ (scheduler.retire workload).signalled ↔
          id = workload.id ∨ id ∈ scheduler.signalled := by
        rw [retire, signal]
        split
        · rename_i known
          have marked : workload.id ∈ scheduler.signalled := by simpa using known
          constructor
          · exact .inr
          · rintro (rfl | before)
            · exact marked
            · exact before
        · exact List.mem_cons
      rw [List.foldl_cons, induction, first, List.map_cons, List.mem_cons]
      tauto

theorem retire_finished (workload : Workload) :
    (scheduler.retire workload).finished =
      scheduler.finished.insert workload.id workload := by
  rw [retire, signal]
  split <;> rfl

theorem retireAll_finished (distinct : (done.map Workload.id).Nodup)
    (absent : ∀ workload ∈ done, scheduler.finished.get? workload.id = none) :
    (done.foldl retire scheduler).finished.entries.Perm
      (done.map (fun workload => (workload.id, workload)) ++ scheduler.finished.entries) := by
  induction done generalizing scheduler with
  | nil => exact List.Perm.refl _
  | cons workload done induction =>
      obtain ⟨new, rest⟩ := List.nodup_cons.1 distinct
      have later : ∀ other ∈ done,
          (scheduler.retire workload).finished.get? other.id = none := by
        intro other member
        have different : other.id ≠ workload.id :=
          fun same => new (same ▸ List.mem_map_of_mem member)
        rw [retire_finished, Table.get?_insert, if_neg different]
        exact absent other (List.mem_cons_of_mem _ member)
      rw [List.foldl_cons]
      apply (induction rest later).trans
      rw [retire_finished]
      have inserted := Table.entries_insert_of_absent workload
        (absent workload List.mem_cons_self)
      exact (List.Perm.append_left _ inserted).trans List.perm_middle

end Retiring

/-! ## Ticks -/

section Tick

variable (scheduler : Scheduler) (network : Network) (time : Seconds)
  (mips : List Binary64)

def turned : List Workload := (scheduler.turns network time mips).map Turn.workload

def ending : List Workload := (scheduler.turned network time mips).filter Workload.finished

/-- The scheduler after the turns of a tick, before the ended workloads are set aside. -/
def advanced : Scheduler :=
  { scheduler with
    active := (scheduler.turned network time mips).filter fun workload => !workload.finished
    previous := time
    lastCapacity := scheduler.capacity mips
    counters :=
      { scheduler.counters with
        ticks := scheduler.counters.ticks + 1
        workloadTicks :=
          scheduler.counters.workloadTicks + (scheduler.turns network time mips).length
        granted :=
          scheduler.counters.granted +
            sumOf ((scheduler.turns network time mips).map Turn.granted)
        records :=
          scheduler.counters.records +
            sumOf ((scheduler.turns network time mips).map Turn.records)
        faults :=
          scheduler.counters.faults +
            ((scheduler.turns network time mips).filterMap Turn.fault).length } }

theorem tick_state :
    (scheduler.tick network time mips).state =
      (scheduler.ending network time mips).foldl retire
        (scheduler.advanced network time mips) := rfl

theorem turned_eq :
    scheduler.turned network time mips =
      scheduler.active.map fun workload =>
        (workload.turn network time scheduler.previous (scheduler.capacity mips)).workload := by
  simp [turned, turns, Function.comp_def]

@[simp] theorem turned_ids :
    (scheduler.turned network time mips).map Workload.id =
      scheduler.active.map Workload.id := by
  rw [turned_eq, List.map_map]
  apply List.map_congr_left
  intro workload _
  exact Workload.id_eq_of_terms (workload.terms_turn _ _ _ _)

@[simp] theorem tick_active :
    (scheduler.tick network time mips).state.active =
      (scheduler.turned network time mips).filter fun workload => !workload.finished := by
  rw [tick_state, retireAll_active]
  rfl

@[simp] theorem tick_reclaimed :
    (scheduler.tick network time mips).state.reclaimed = scheduler.reclaimed := by
  rw [tick_state, retireAll_reclaimed]
  rfl

@[simp] theorem tick_previous :
    (scheduler.tick network time mips).state.previous = time := by
  rw [tick_state, retireAll_previous]
  rfl

@[simp] theorem tick_reclaims :
    (scheduler.tick network time mips).state.counters.reclaims =
      scheduler.counters.reclaims := by
  rw [tick_state, retireAll_reclaims]
  rfl

@[simp] theorem tick_gap : (scheduler.tick network time mips).state.gap = scheduler.gap := by
  rw [tick_state, retireAll_gap]
  rfl

theorem tick_isDelivery :
    ∀ dispatch ∈ (scheduler.tick network time mips).dispatches,
      dispatch.IsDelivery network.registry := by
  intro dispatch member
  simp only [tick, turns, List.mem_flatMap, List.mem_map] at member
  obtain ⟨turn, ⟨workload, -, rfl⟩, sent⟩ := member
  exact workload.turn_isDelivery network time _ _ dispatch sent

variable {scheduler network time mips}

theorem mem_ids_of_ending {id : WorkloadId}
    (ends : id ∈ (scheduler.ending network time mips).map Workload.id) :
    id ∈ scheduler.active.map Workload.id := by
  rw [← scheduler.turned_ids network time mips]
  obtain ⟨workload, member, rfl⟩ := List.mem_map.1 ends
  exact List.mem_map_of_mem (List.mem_of_mem_filter member)

/-- Running workloads have not ended. -/
theorem Filed.apart (filed : scheduler.Filed) {id : WorkloadId}
    (active : id ∈ scheduler.active.map Workload.id) : id ∉ scheduler.settled :=
  fun settled => (List.nodup_append.1 filed.distinct).2.2 id active id settled rfl

theorem Filed.unsettled (filed : scheduler.Filed) {workload : Workload}
    (ends : workload ∈ scheduler.ending network time mips) :
    workload.id ∉ scheduler.settled :=
  filed.apart (mem_ids_of_ending (List.mem_map_of_mem ends))

theorem Filed.ending_distinct (filed : scheduler.Filed) :
    ((scheduler.ending network time mips).map Workload.id).Nodup := by
  have ids := (List.nodup_append.1 filed.distinct).1
  rw [← scheduler.turned_ids network time mips] at ids
  exact ids.sublist (List.filter_sublist.map _)

theorem Filed.ending_absent (filed : scheduler.Filed) :
    ∀ workload ∈ scheduler.ending network time mips,
      scheduler.finished.get? workload.id = none := by
  intro workload ends
  cases found : scheduler.finished.get? workload.id with
  | none => rfl
  | some kept =>
      exact absurd (List.mem_append_left _ (Table.mem_keys.2 ⟨kept, found⟩))
        (filed.unsettled ends)

theorem WellFormed.retirable (formed : scheduler.WellFormed) :
    Retirable (scheduler.advanced network time mips) (scheduler.ending network time mips) where
  distinct := formed.filed.ending_distinct
  unsignalled _ ends signalled :=
    formed.filed.unsettled ends ((formed.signalled _).1 signalled)
  absent := formed.filed.ending_absent

theorem WellFormed.tick_completed (formed : scheduler.WellFormed) :
    (scheduler.tick network time mips).state.completed =
      scheduler.completed ++ (scheduler.ending network time mips).map Workload.id :=
  retireAll_completed formed.retirable

theorem mem_tick_signalled {id : WorkloadId} :
    id ∈ (scheduler.tick network time mips).state.signalled ↔
      id ∈ (scheduler.ending network time mips).map Workload.id ∨ id ∈ scheduler.signalled :=
  mem_retireAll_signalled

theorem Filed.tick_finished (filed : scheduler.Filed) :
    (scheduler.tick network time mips).state.finished.entries.Perm
      ((scheduler.ending network time mips).map (fun workload => (workload.id, workload)) ++
        scheduler.finished.entries) :=
  retireAll_finished filed.ending_distinct filed.ending_absent

theorem Filed.tick_keys (filed : scheduler.Filed) :
    (scheduler.tick network time mips).state.finished.keys.Perm
      ((scheduler.ending network time mips).map Workload.id ++ scheduler.finished.keys) := by
  simpa [Table.keys, Function.comp_def] using
    (filed.tick_finished : ((scheduler.tick network time mips).state.finished.entries.Perm _)).map
      Prod.fst

/-- A tick adds the workloads that end to those that have ended. -/
theorem Filed.tick_settled (filed : scheduler.Filed) :
    (scheduler.tick network time mips).state.settled.Perm
      ((scheduler.ending network time mips).map Workload.id ++ scheduler.settled) := by
  rw [settled, tick_reclaimed, settled, ← List.append_assoc]
  exact List.Perm.append_right _ filed.tick_keys

/-- A tick lets every running workload take its turn and loses none. -/
theorem Filed.tick_workloads (filed : scheduler.Filed) :
    (scheduler.tick network time mips).state.workloads.Perm
      (scheduler.turned network time mips ++ scheduler.finished.values) := by
  have values : (scheduler.tick network time mips).state.finished.values.Perm
      (scheduler.ending network time mips ++ scheduler.finished.values) := by
    simpa [Table.values, Function.comp_def] using
      (filed.tick_finished :
        ((scheduler.tick network time mips).state.finished.entries.Perm _)).map Prod.snd
  rw [workloads, tick_active]
  apply (List.Perm.append_left _ values).trans
  rw [← List.append_assoc]
  exact List.Perm.append_right _
    (List.perm_append_comm.trans (List.filter_append_perm Workload.finished _))

theorem Filed.tick_identities (filed : scheduler.Filed) :
    (scheduler.tick network time mips).state.identities.Perm scheduler.identities := by
  have split := (List.filter_append_perm Workload.finished
    (scheduler.turned network time mips)).map Workload.id
  rw [turned_ids, List.map_append] at split
  rw [identities, tick_active, identities]
  apply (List.Perm.append_left _ filed.tick_settled).trans
  rw [← List.append_assoc]
  exact List.Perm.append_right _ (List.perm_append_comm.trans split)

theorem Filed.tick (filed : scheduler.Filed) :
    (scheduler.tick network time mips).state.Filed where
  ended := by
    intro id workload found
    have member := filed.tick_finished.mem_iff.1 (Table.mem_entries.2 found)
    rcases List.mem_append.1 member with new | old
    · obtain ⟨ended, ending, same⟩ := List.mem_map.1 new
      cases same
      exact ⟨rfl, (List.mem_filter.1 ending).2⟩
    · exact filed.ended id workload (Table.mem_entries.1 old)
  distinct := filed.tick_identities.nodup_iff.2 filed.distinct

theorem WellFormed.tick (formed : scheduler.WellFormed) :
    (scheduler.tick network time mips).state.WellFormed where
  running := by
    intro workload member
    rw [tick_active] at member
    simpa using (List.mem_filter.1 member).2
  ended := formed.filed.tick.ended
  distinct := formed.filed.tick.distinct
  signalled := by
    intro id
    rw [mem_tick_signalled, formed.signalled, formed.filed.tick_settled.mem_iff,
      List.mem_append]

theorem WellFormed.tick_fault (formed : scheduler.WellFormed)
    (monotone : ¬ time < scheduler.previous) {fault : Fault}
    (failed : (scheduler.tick network time mips).result = .error fault) :
    ∃ vertex, fault = .unresolvedDestination vertex := by
  have member := mem_of_reportWorst failed
  obtain ⟨turn, taken, reported⟩ := List.mem_filterMap.1 member
  obtain ⟨workload, active, rfl⟩ := List.mem_map.1 taken
  exact Workload.turn_fault (formed.running workload active) monotone reported

end Tick

/-! ## Submission -/

theorem submit_eq_ok {scheduler next : Scheduler} {workload : Workload} {estimate : Seconds}
    (taken : scheduler.submit workload = .ok (estimate, next)) :
    workload.id ∉ scheduler.identities ∧ estimate = workload.duration ∧
      next = { scheduler with active := scheduler.active ++ [workload] } := by
  rw [submit] at taken
  split at taken
  · cases taken
  · rename_i unknown
    cases taken
    exact ⟨fun member => unknown (contains_iff.2 member), rfl, rfl⟩

theorem submit_of_not_mem {scheduler : Scheduler} {workload : Workload}
    (unknown : workload.id ∉ scheduler.identities) :
    scheduler.submit workload =
      .ok (workload.duration, { scheduler with active := scheduler.active ++ [workload] }) := by
  rw [submit, if_neg fun contained => unknown (contains_iff.1 contained)]

theorem identities_submit {scheduler next : Scheduler} {workload : Workload}
    {estimate : Seconds} (taken : scheduler.submit workload = .ok (estimate, next)) :
    next.identities.Perm (workload.id :: scheduler.identities) := by
  obtain ⟨-, -, rfl⟩ := submit_eq_ok taken
  simp only [identities, settled, List.map_append, List.map_cons, List.map_nil,
    List.append_assoc]
  exact List.perm_middle

theorem Filed.submit {scheduler next : Scheduler} (filed : scheduler.Filed)
    {workload : Workload} {estimate : Seconds}
    (taken : scheduler.submit workload = .ok (estimate, next)) : next.Filed := by
  have distinct : next.identities.Nodup := by
    rw [(identities_submit taken).nodup_iff]
    exact List.nodup_cons.2 ⟨(submit_eq_ok taken).1, filed.distinct⟩
  obtain ⟨-, -, rfl⟩ := submit_eq_ok taken
  exact ⟨filed.ended, distinct⟩

theorem WellFormed.submit {scheduler next : Scheduler} (formed : scheduler.WellFormed)
    {workload : Workload} {estimate : Seconds} (running : workload.finished = false)
    (taken : scheduler.submit workload = .ok (estimate, next)) : next.WellFormed := by
  have distinct := (formed.filed.submit taken).distinct
  obtain ⟨-, -, rfl⟩ := submit_eq_ok taken
  refine ⟨fun other member => ?_, formed.ended, distinct, formed.signalled⟩
  rcases List.mem_append.1 member with old | new
  · exact formed.running other old
  · rw [List.mem_singleton.1 new]
    exact running

/-! ## Delivery -/

theorem replaceFirst_of_find? {id : WorkloadId} {found : Workload}
    {active : List Workload} (replacement : Workload)
    (first : active.find? (fun candidate => candidate.id == id) = some found) :
    ∃ before after, active = before ++ found :: after ∧
      replaceFirst id replacement active = before ++ replacement :: after := by
  induction active with
  | nil => simp at first
  | cons candidate rest induction =>
      by_cases same : (candidate.id == id) = true
      · simp only [List.find?_cons, same, Option.some.injEq] at first
        subst first
        exact ⟨[], rest, rfl, by simp [replaceFirst, same]⟩
      · simp only [List.find?_cons, same] at first
        obtain ⟨before, after, listed, replaced⟩ := induction first
        refine ⟨candidate :: before, after, by simp [listed], ?_⟩
        rw [replaceFirst, if_neg same, replaced]
        rfl

/-- A message was taken in by one of the workloads, and nothing else has changed. -/
structure Delivered (scheduler : Scheduler) (id : WorkloadId) (message : Message)
    (next : Scheduler) : Prop where
  changed : ∃ before workload after, workload.id = id ∧
    scheduler.workloads = before ++ workload :: after ∧
      next.workloads = before ++ workload.receive message :: after
  activeIds : next.active.map Workload.id = scheduler.active.map Workload.id
  keys : next.finished.keys = scheduler.finished.keys
  reclaimed : next.reclaimed = scheduler.reclaimed
  completed : next.completed = scheduler.completed
  previous : next.previous = scheduler.previous
  gap : next.gap = scheduler.gap
  formed : next.WellFormed

namespace Delivered

variable {scheduler next : Scheduler} {id : WorkloadId} {message : Message}

/-- Every workload is still there, with the message if it has taken it in. -/
theorem mem_workloads (delivered : Delivered scheduler id message next) {found : Workload}
    (member : found ∈ scheduler.workloads) :
    found ∈ next.workloads ∨ found.receive message ∈ next.workloads := by
  obtain ⟨before, workload, after, -, listed, changed⟩ := delivered.changed
  rw [listed] at member
  rw [changed]
  rcases List.mem_append.1 member with early | late
  · exact .inl (List.mem_append_left _ early)
  · rcases List.mem_cons.1 late with same | late
    · subst same
      exact .inr (List.mem_append_right _ List.mem_cons_self)
    · exact .inl (List.mem_append_right _ (List.mem_cons_of_mem _ late))

theorem of_mem_workloads (delivered : Delivered scheduler id message next) {found : Workload}
    (member : found ∈ next.workloads) :
    found ∈ scheduler.workloads ∨
      ∃ workload ∈ scheduler.workloads, found = workload.receive message := by
  obtain ⟨before, workload, after, -, listed, changed⟩ := delivered.changed
  rw [changed] at member
  rw [listed]
  rcases List.mem_append.1 member with early | late
  · exact .inl (List.mem_append_left _ early)
  · rcases List.mem_cons.1 late with received | late
    · exact .inr ⟨workload, List.mem_append_right _ List.mem_cons_self, received⟩
    · exact .inl (List.mem_append_right _ (List.mem_cons_of_mem _ late))

theorem settled (delivered : Delivered scheduler id message next) :
    next.settled = scheduler.settled := by
  rw [Scheduler.settled, delivered.keys, delivered.reclaimed, Scheduler.settled]

theorem identities (delivered : Delivered scheduler id message next) :
    next.identities = scheduler.identities := by
  rw [Scheduler.identities, delivered.activeIds, delivered.settled, Scheduler.identities]

end Delivered

section Delivery

variable {scheduler : Scheduler} {id : WorkloadId} (message : Message)

theorem WellFormed.deliver_of_active (formed : scheduler.WellFormed)
    (unreclaimed : id ∉ scheduler.reclaimed) {found : Workload}
    (first : scheduler.active.find? (fun candidate => candidate.id == id) = some found) :
    ∃ next, scheduler.deliver id message = .ok next ∧
      Delivered scheduler id message next := by
  have named : found.id = id := by simpa using List.find?_some first
  obtain ⟨before, after, listed, replaced⟩ :=
    replaceFirst_of_find? (found.receive message) first
  let next : Scheduler :=
    { scheduler with active := replaceFirst id (found.receive message) scheduler.active }
  have taken : scheduler.deliver id message = .ok next := by
    simp [deliver, modify, unreclaimed, first, Except.map, next]
  have ids : next.active.map Workload.id = scheduler.active.map Workload.id := by
    simp only [next, replaced]
    simp only [listed, List.map_append, List.map_cons,
      Workload.id_eq_of_terms (found.terms_receive message)]
  refine ⟨next, taken, ?_⟩
  refine ⟨⟨before, found, after ++ scheduler.finished.values, named, ?_, ?_⟩, ids, rfl, rfl, rfl,
    rfl, rfl, ?_⟩
  · simp [workloads, listed]
  · simp [workloads, next, replaced]
  · refine ⟨fun workload member => ?_, formed.ended, ?_, formed.signalled⟩
    · simp only [next, replaced, List.mem_append, List.mem_cons] at member
      have running := formed.running
      simp only [listed, List.mem_append, List.mem_cons] at running
      rcases member with early | same | late
      · exact running workload (.inl early)
      · rw [same, Workload.finished_receive]
        exact running found (.inr (.inl rfl))
      · exact running workload (.inr (.inr late))
    · have distinct := formed.distinct
      rw [identities, ← ids] at distinct
      exact distinct

theorem WellFormed.deliver_of_finished (formed : scheduler.WellFormed)
    (unreclaimed : id ∉ scheduler.reclaimed)
    (inactive : scheduler.active.find? (fun candidate => candidate.id == id) = none)
    {found : Workload} (kept : scheduler.finished.get? id = some found) :
    ∃ next, scheduler.deliver id message = .ok next ∧
      Delivered scheduler id message next := by
  obtain ⟨named, ended⟩ := formed.ended id found kept
  obtain ⟨before, after, listed, replaced⟩ :=
    Table.entries_insert_of_present (found.receive message) kept
  let next : Scheduler :=
    { scheduler with finished := scheduler.finished.insert id (found.receive message) }
  have taken : scheduler.deliver id message = .ok next := by
    simp [deliver, modify, unreclaimed, inactive, kept, Except.map, next]
  have keys : next.finished.keys = scheduler.finished.keys := by
    simp [next, Table.keys, listed, replaced]
  refine ⟨next, taken, ?_⟩
  refine ⟨⟨scheduler.active ++ before.map Prod.snd, found, after.map Prod.snd, named, ?_, ?_⟩,
    rfl, keys, rfl, rfl, rfl, rfl, ?_⟩
  · simp [workloads, Table.values, listed]
  · simp [workloads, next, Table.values, replaced]
  · refine ⟨formed.running, fun other workload present => ?_, ?_, fun other => ?_⟩
    · simp only [next, Table.get?_insert] at present
      split at present
      · rename_i same
        cases present
        exact ⟨by rw [Workload.id_eq_of_terms (found.terms_receive message), named, same],
          by rw [Workload.finished_receive, ended]⟩
      · exact formed.ended other workload present
    · have distinct := formed.distinct
      rw [identities, settled, ← keys] at distinct
      exact distinct
    · rw [settled, keys]
      exact formed.signalled other

/-- A delivery to a workload that is here succeeds. -/
theorem WellFormed.deliver_of_mem (formed : scheduler.WellFormed)
    (here : id ∈ scheduler.workloads.map Workload.id) :
    ∃ next, scheduler.deliver id message = .ok next ∧
      Delivered scheduler id message next := by
  have unreclaimed : id ∉ scheduler.reclaimed := by
    have distinct := formed.distinct
    rw [formed.identities_eq] at distinct
    exact fun reclaimed => (List.nodup_append.1 distinct).2.2 id here id reclaimed rfl
  cases first : scheduler.active.find? (fun candidate => candidate.id == id) with
  | some found => exact formed.deliver_of_active message unreclaimed first
  | none =>
      rw [workloads, List.map_append, List.mem_append, formed.finished_ids] at here
      rcases here with active | finished
      · obtain ⟨workload, member, named⟩ := List.mem_map.1 active
        have absent := List.find?_eq_none.1 first workload member
        simp [named] at absent
      · obtain ⟨found, kept⟩ := Table.mem_keys.1 finished
        exact formed.deliver_of_finished message unreclaimed first kept

variable {message} in
theorem WellFormed.delivered (formed : scheduler.WellFormed) {next : Scheduler}
    (taken : scheduler.deliver id message = .ok next) : Delivered scheduler id message next := by
  have unreclaimed : id ∉ scheduler.reclaimed := by
    intro reclaimed
    simp [deliver, modify, reclaimed, Except.map] at taken
  have same {other : Scheduler} (again : scheduler.deliver id message = .ok other)
      (delivered : Delivered scheduler id message other) :
      Delivered scheduler id message next :=
    Except.ok.inj (again.symm.trans taken) ▸ delivered
  cases first : scheduler.active.find? (fun candidate => candidate.id == id) with
  | some found =>
      obtain ⟨other, again, delivered⟩ := formed.deliver_of_active message unreclaimed first
      exact same again delivered
  | none =>
      cases kept : scheduler.finished.get? id with
      | some found =>
          obtain ⟨other, again, delivered⟩ :=
            formed.deliver_of_finished message unreclaimed first kept
          exact same again delivered
      | none => simp [deliver, modify, unreclaimed, first, kept, Except.map] at taken

theorem deliver_of_reclaimed (reclaimed : id ∈ scheduler.reclaimed) :
    scheduler.deliver id message = .error (.workloadReclaimed id) := by
  simp [deliver, modify, reclaimed, Except.map]

end Delivery

/-! ## Reclaiming -/

/-- A finished workload was handed back, and it is remembered as reclaimed. -/
structure HandedBack (scheduler : Scheduler) (id : WorkloadId) (workload : Workload)
    (next : Scheduler) : Prop where
  present : scheduler.finished.get? id = some workload
  active : next.active = scheduler.active
  finished : next.finished = scheduler.finished.erase id
  reclaimed : next.reclaimed = id :: scheduler.reclaimed
  completed : next.completed = scheduler.completed
  previous : next.previous = scheduler.previous
  gap : next.gap = scheduler.gap
  signalled : next.signalled = scheduler.signalled

theorem reclaim_eq_ok {scheduler next : Scheduler} {id : WorkloadId} {workload : Workload}
    (reclaimed : scheduler.reclaim id = .ok (workload, next)) :
    HandedBack scheduler id workload next := by
  rw [reclaim] at reclaimed
  split at reclaimed
  · rename_i found kept
    cases reclaimed
    exact ⟨kept, rfl, rfl, rfl, rfl, rfl, rfl, rfl⟩
  · split at reclaimed
    · cases reclaimed
    · split at reclaimed <;> cases reclaimed

namespace HandedBack

variable {scheduler next : Scheduler} {id : WorkloadId} {workload : Workload}

theorem keys (handed : HandedBack scheduler id workload next) :
    scheduler.finished.keys.Perm (id :: next.finished.keys) := by
  rw [handed.finished]
  exact (Table.entries_erase handed.present).map Prod.fst

theorem settled (handed : HandedBack scheduler id workload next) :
    next.settled.Perm scheduler.settled := by
  rw [Scheduler.settled, Scheduler.settled, handed.reclaimed]
  exact List.perm_middle.trans (List.Perm.append_right _ handed.keys.symm)

theorem identities (handed : HandedBack scheduler id workload next) :
    next.identities.Perm scheduler.identities := by
  rw [Scheduler.identities, Scheduler.identities, handed.active]
  exact List.Perm.append_left _ handed.settled

theorem workloads (handed : HandedBack scheduler id workload next) :
    scheduler.workloads.Perm (workload :: next.workloads) := by
  rw [Scheduler.workloads, Scheduler.workloads, handed.active, handed.finished]
  have values := (Table.entries_erase handed.present).map Prod.snd
  exact (List.Perm.append_left _ values).trans List.perm_middle

theorem filed (handed : HandedBack scheduler id workload next) (filed : scheduler.Filed) :
    next.Filed where
  ended := by
    intro other found kept
    rw [handed.finished, Table.get?_erase] at kept
    split at kept
    · cases kept
    · exact filed.ended other found kept
  distinct := handed.identities.nodup_iff.2 filed.distinct

theorem wellFormed (handed : HandedBack scheduler id workload next)
    (formed : scheduler.WellFormed) : next.WellFormed where
  running := by
    rw [handed.active]
    exact formed.running
  ended := (handed.filed formed.filed).ended
  distinct := (handed.filed formed.filed).distinct
  signalled := by
    intro other
    rw [handed.signalled, formed.signalled, handed.settled.mem_iff]

end HandedBack

end Scheduler

end CoSimulation
