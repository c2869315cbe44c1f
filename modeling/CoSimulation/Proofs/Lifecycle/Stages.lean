import CoSimulation.Proofs.Scheduler

/-!
# The life of a workload on a host

To a host's scheduler a workload is unknown, running, finished or reclaimed, in this
order.  `Lifecycle.step` says what every request does to the stages of all workloads, and
which ones it refuses and why; a scheduler does exactly that, whatever is asked of it.
Signals from outside and ticks of single workloads come at any time, and a workload may
have finished before its scheduler notices.
-/

namespace CoSimulation

/-- How far a workload has come. -/
inductive Stage where
  | unknown
  | running
  | finished
  | reclaimed
deriving DecidableEq

def Stage.rank : Stage → Nat
  | unknown => 0
  | running => 1
  | finished => 2
  | reclaimed => 3

namespace Scheduler

/-- Something that is asked of a scheduler. -/
inductive Request where
  | submit (workload : Workload)
  | tick (network : Network) (time : Seconds) (mips : List Binary64)
  | reclaim (workload : WorkloadId)
  | deliver (workload : WorkloadId) (message : Message)
  | signal (workload : WorkloadId)
  | takeCompleted
  /-- A tick of one workload, past its scheduler. -/
  | advance (workload : WorkloadId) (slice : Slice)

/-- What a scheduler answers. -/
inductive Reply where
  | done
  | refused (fault : Fault)
  | returned (workload : Workload)
  | collected (workloads : List WorkloadId)

def Reply.reported : Reply → List WorkloadId
  | done | refused _ | returned _ => []
  | collected workloads => workloads

/-- The reply to a request that leads to another scheduler or is refused. -/
def answer (scheduler : Scheduler) : Except Fault Scheduler → Reply × Scheduler
  | .error fault => (.refused fault, scheduler)
  | .ok next => (.done, next)

/-- The reply to a request and the scheduler after it. -/
def perform (scheduler : Scheduler) : Request → Reply × Scheduler
  | .submit workload => scheduler.answer ((scheduler.submit workload).map Prod.snd)
  | .tick network time mips => (.done, (scheduler.tick network time mips).state)
  | .reclaim workload =>
      match scheduler.reclaim workload with
      | .error fault => (.refused fault, scheduler)
      | .ok (found, next) => (.returned found, next)
  | .deliver workload message => scheduler.answer (scheduler.deliver workload message)
  | .signal workload => (.done, (scheduler.signal workload).2)
  | .takeCompleted => (.collected scheduler.takeCompleted.1, scheduler.takeCompleted.2)
  | .advance workload slice =>
      scheduler.answer
        ((scheduler.modify workload fun found => found.tick slice).map Prod.snd)

def after (scheduler : Scheduler) : List Request → Scheduler
  | [] => scheduler
  | request :: rest => (scheduler.perform request).2.after rest

/-- The completions that are collected while requests are performed, in order. -/
def reported (scheduler : Scheduler) : List Request → List WorkloadId
  | [] => []
  | request :: rest =>
      (scheduler.perform request).1.reported ++ (scheduler.perform request).2.reported rest

/-- The stage of a workload. -/
def stage (scheduler : Scheduler) (workload : WorkloadId) : Stage :=
  if workload ∈ scheduler.active.map Workload.id then .running
  else if workload ∈ scheduler.finished.keys then .finished
  else if workload ∈ scheduler.reclaimed then .reclaimed
  else .unknown

/-- Whether a running workload is finished after it has ticked in a request. -/
def ends (scheduler : Scheduler) : Request → WorkloadId → Bool
  | .tick _ time mips, workload =>
      scheduler.active.any fun found =>
        found.id == workload &&
          (found.tick
            (found.sliceOf time scheduler.previous (scheduler.capacity mips))).2.finished
  | _, _ => false

end Scheduler

/-! ## The stages that requests lead to -/

/-- The stages of all workloads. -/
abbrev Lifecycle := WorkloadId → Stage

namespace Lifecycle

/-- The lifecycle after a request, or why it is refused. -/
def step (life : Lifecycle) (ends : WorkloadId → Bool) :
    Scheduler.Request → Except Fault Lifecycle
  | .submit workload =>
      if life workload.id = .unknown then .ok (Function.update life workload.id .running)
      else .error (.duplicateWorkload workload.id)
  | .tick .. =>
      .ok fun workload =>
        if life workload = .running ∧ ends workload then .finished else life workload
  | .reclaim workload =>
      match life workload with
      | .finished => .ok (Function.update life workload .reclaimed)
      | .running => .error (.workloadStillRunning workload)
      | .reclaimed => .error (.workloadReclaimed workload)
      | .unknown => .error (.unknownWorkload workload)
  | .deliver workload _ | .advance workload _ =>
      match life workload with
      | .running | .finished => .ok life
      | .reclaimed => .error (.workloadReclaimed workload)
      | .unknown => .error (.unknownWorkload workload)
  | .signal _ | .takeCompleted => .ok life

variable {life next : Lifecycle} {ends : WorkloadId → Bool} {request : Scheduler.Request}

/-- Workloads move forward only. -/
theorem rank_le_of_step (stepped : life.step ends request = .ok next) (workload : WorkloadId) :
    (life workload).rank ≤ (next workload).rank := by
  cases request with
  | submit other =>
      rw [step] at stepped
      split at stepped
      · rename_i new
        cases stepped
        rw [Function.update_apply]
        split
        · rename_i same
          rw [same, new]
          exact Nat.zero_le _
        · exact Nat.le_refl _
      · cases stepped
  | tick =>
      cases stepped
      dsimp only
      split
      · rename_i ended
        rw [ended.1]
        exact Nat.le_succ _
      · exact Nat.le_refl _
  | reclaim other =>
      rw [step] at stepped
      split at stepped
      · rename_i finished
        cases stepped
        rw [Function.update_apply]
        split
        · rename_i same
          rw [same, finished]
          exact Nat.le_succ _
        · exact Nat.le_refl _
      · cases stepped
      · cases stepped
      · cases stepped
  | deliver other | advance other =>
      rw [step] at stepped
      split at stepped
      · cases stepped
        exact Nat.le_refl _
      · cases stepped
        exact Nat.le_refl _
      · cases stepped
      · cases stepped
  | signal | takeCompleted =>
      cases stepped
      exact Nat.le_refl _

end Lifecycle

namespace Scheduler

/-! ## Stages and lists -/

section Stages

variable {scheduler next : Scheduler} {id : WorkloadId}

theorem mem_identities :
    id ∈ scheduler.identities ↔
      id ∈ scheduler.active.map Workload.id ∨ id ∈ scheduler.finished.keys ∨
        id ∈ scheduler.reclaimed := by
  rw [identities, settled, List.mem_append, List.mem_append]

theorem stage_eq_running :
    scheduler.stage id = .running ↔ id ∈ scheduler.active.map Workload.id := by
  rw [stage]
  split
  · simp [*]
  · split
    · simp [*]
    · split <;> simp [*]

theorem stage_eq_unknown : scheduler.stage id = .unknown ↔ id ∉ scheduler.identities := by
  rw [mem_identities, stage]
  split
  · simp [*]
  · split
    · simp [*]
    · split <;> simp [*]

theorem Filed.stage_eq_finished (filed : scheduler.Filed) :
    scheduler.stage id = .finished ↔ id ∈ scheduler.finished.keys := by
  rw [stage]
  split
  · rename_i active
    have running : id ∉ scheduler.finished.keys := fun ended =>
      filed.apart active (List.mem_append_left _ ended)
    simp [running]
  · split
    · simp [*]
    · split <;> simp [*]

theorem Filed.stage_eq_reclaimed (filed : scheduler.Filed) :
    scheduler.stage id = .reclaimed ↔ id ∈ scheduler.reclaimed := by
  rw [stage]
  split
  · rename_i active
    have running : id ∉ scheduler.reclaimed := fun reclaimed =>
      filed.apart active (List.mem_append_right _ reclaimed)
    simp [running]
  · split
    · rename_i kept
      have settled := (List.nodup_append.1 filed.distinct).2.1
      have finished : id ∉ scheduler.reclaimed := fun reclaimed =>
        (List.nodup_append.1 settled).2.2 id kept id reclaimed rfl
      simp [finished]
    · split <;> simp [*]

theorem find?_of_inactive (inactive : id ∉ scheduler.active.map Workload.id) :
    scheduler.active.find? (fun candidate => candidate.id == id) = none := by
  rw [List.find?_eq_none]
  intro workload member same
  exact inactive (List.mem_map.2 ⟨workload, member, by simpa using same⟩)

theorem get?_of_unkept (unkept : id ∉ scheduler.finished.keys) :
    scheduler.finished.get? id = none := by
  cases found : scheduler.finished.get? id with
  | none => rfl
  | some workload => exact absurd (Table.mem_keys.2 ⟨workload, found⟩) unkept

/-- Lists with the same workload make the same stage. -/
theorem stage_congr (active : id ∈ next.active.map Workload.id ↔
      id ∈ scheduler.active.map Workload.id)
    (finished : id ∈ next.finished.keys ↔ id ∈ scheduler.finished.keys)
    (reclaimed : id ∈ next.reclaimed ↔ id ∈ scheduler.reclaimed) :
    next.stage id = scheduler.stage id := by
  simp only [stage, active, finished, reclaimed]

end Stages

/-! ## A request at a time -/

/-- A request is refused as the lifecycle says and changes nothing, or it is not refused and
leads to the stages that the lifecycle says. -/
def Follows (scheduler : Scheduler) (request : Request) : Prop :=
  match Lifecycle.step scheduler.stage (scheduler.ends request) request with
  | .error fault => scheduler.perform request = (.refused fault, scheduler)
  | .ok life =>
      (∀ fault, (scheduler.perform request).1 ≠ .refused fault) ∧
        (scheduler.perform request).2.stage = life

/-- What a request does to the completions that nobody has collected yet. -/
structure Collects (scheduler : Scheduler) (request : Request) : Prop where
  /-- A collection hands over all of them and leaves none, and changes nothing else. -/
  all : request = .takeCompleted →
    scheduler.perform request =
      (.collected scheduler.completed, { scheduler with completed := [] })
  /-- Any other request hands over none and leaves them before those that it adds. -/
  kept : request ≠ .takeCompleted →
    (scheduler.perform request).1.reported = [] ∧
      scheduler.completed <+: (scheduler.perform request).2.completed

structure Obeys (scheduler : Scheduler) (request : Request) : Prop where
  follows : scheduler.Follows request
  collects : scheduler.Collects request

section Requests

variable {scheduler : Scheduler}

theorem follows_submit (workload : Workload) : scheduler.Follows (.submit workload) := by
  rw [Follows, Lifecycle.step]
  split
  · rename_i fault refused
    split at refused
    · cases refused
    · rename_i known
      cases refused
      rw [stage_eq_unknown, not_not, ← contains_iff] at known
      rw [perform, submit, if_pos known]
      rfl
  · rename_i life taken
    split at taken
    · rename_i new
      cases taken
      rw [stage_eq_unknown] at new
      rw [perform, submit_of_not_mem new]
      refine ⟨fun _ => Reply.noConfusion, funext fun id => ?_⟩
      rw [Function.update_apply]
      change Scheduler.stage { scheduler with active := scheduler.active ++ [workload] } id = _
      split
      · rename_i same
        rw [stage_eq_running, same]
        simp
      · rename_i different
        apply stage_congr
        · simp [different]
        · exact Iff.rfl
        · exact Iff.rfl
    · cases taken

/-- A workload was exchanged for one with the same identity that has ended if it had. -/
structure Modified (scheduler next : Scheduler) : Prop where
  activeIds : next.active.map Workload.id = scheduler.active.map Workload.id
  keys : next.finished.keys = scheduler.finished.keys
  reclaimed : next.reclaimed = scheduler.reclaimed
  signalled : next.signalled = scheduler.signalled
  completed : next.completed = scheduler.completed
  counters : next.counters = scheduler.counters
  ended : ∀ id workload, next.finished.get? id = some workload →
    workload.id = id ∧ workload.finished = true

theorem Modified.settled {next : Scheduler} (modified : Modified scheduler next) :
    next.settled = scheduler.settled := by
  rw [Scheduler.settled, modified.keys, modified.reclaimed, Scheduler.settled]

theorem Modified.filed {next : Scheduler} (modified : Modified scheduler next)
    (filed : scheduler.Filed) : next.Filed where
  ended := modified.ended
  distinct := by
    rw [identities, modified.activeIds, modified.settled]
    exact filed.distinct

theorem Modified.stage {next : Scheduler} (modified : Modified scheduler next) :
    next.stage = scheduler.stage := by
  funext id
  apply stage_congr
  · rw [modified.activeIds]
  · rw [modified.keys]
  · rw [modified.reclaimed]

/-- An action on a workload that keeps its identity, and its end if it has ended. -/
structure Gentle {α : Type} (action : Workload → α × Workload) : Prop where
  named : ∀ workload, (action workload).2.id = workload.id
  ended : ∀ workload, workload.finished = true → (action workload).2.finished = true

section Modify

variable {α : Type} {action : Workload → α × Workload} {id : WorkloadId}

theorem Filed.modify_of_running (filed : scheduler.Filed) (gentle : Gentle action)
    (running : scheduler.stage id = .running) :
    ∃ value next, scheduler.modify id action = .ok (value, next) ∧
      Modified scheduler next := by
  have active := stage_eq_running.1 running
  have unreclaimed : id ∉ scheduler.reclaimed := fun reclaimed =>
    filed.apart active (List.mem_append_right _ reclaimed)
  obtain ⟨found, first⟩ : ∃ found,
      scheduler.active.find? (fun candidate => candidate.id == id) = some found := by
    rw [← Option.isSome_iff_exists, List.find?_isSome]
    obtain ⟨workload, member, named⟩ := List.mem_map.1 active
    exact ⟨workload, member, by simpa using named⟩
  obtain ⟨before, later, listed, replaced⟩ := replaceFirst_of_find? (action found).2 first
  let next : Scheduler :=
    { scheduler with active := replaceFirst id (action found).2 scheduler.active }
  refine ⟨(action found).1, next, ?_, ?_, rfl, rfl, rfl, rfl, rfl, filed.ended⟩
  · simp [modify, unreclaimed, first, next]
  · simp only [next, replaced]
    simp only [listed, List.map_append, List.map_cons, gentle.named found]

theorem Filed.modify_of_finished (filed : scheduler.Filed) (gentle : Gentle action)
    (finished : scheduler.stage id = .finished) :
    ∃ value next, scheduler.modify id action = .ok (value, next) ∧
      Modified scheduler next := by
  have kept := filed.stage_eq_finished.1 finished
  have unreclaimed : id ∉ scheduler.reclaimed := by
    rw [← filed.stage_eq_reclaimed, finished]
    exact Stage.noConfusion
  have inactive : id ∉ scheduler.active.map Workload.id := by
    rw [← stage_eq_running, finished]
    exact Stage.noConfusion
  obtain ⟨found, present⟩ := Table.mem_keys.1 kept
  obtain ⟨named, ended⟩ := filed.ended id found present
  obtain ⟨before, later, listed, replaced⟩ :=
    Table.entries_insert_of_present (action found).2 present
  let next : Scheduler :=
    { scheduler with finished := scheduler.finished.insert id (action found).2 }
  refine ⟨(action found).1, next, ?_, rfl, ?_, rfl, rfl, rfl, rfl, ?_⟩
  · simp [modify, unreclaimed, find?_of_inactive inactive, present, next]
  · simp [next, Table.keys, listed, replaced]
  · intro other workload there
    rcases Table.of_get?_insert there with ⟨rfl, rfl⟩ | ⟨-, old⟩
    · exact ⟨(gentle.named found).trans named, gentle.ended found ended⟩
    · exact filed.ended other workload old

theorem Filed.modify_of_reclaimed (filed : scheduler.Filed)
    (reclaimed : scheduler.stage id = .reclaimed) :
    scheduler.modify id action = .error (.workloadReclaimed id) := by
  rw [filed.stage_eq_reclaimed] at reclaimed
  simp [modify, reclaimed]

theorem modify_of_unknown (unknown : scheduler.stage id = .unknown) :
    scheduler.modify id action = .error (.unknownWorkload id) := by
  rw [stage_eq_unknown, mem_identities, not_or, not_or] at unknown
  obtain ⟨inactive, unkept, unreclaimed⟩ := unknown
  simp [modify, unreclaimed, find?_of_inactive inactive, get?_of_unkept unkept]

theorem Filed.modified {next : Scheduler} {value : α} (filed : scheduler.Filed)
    (gentle : Gentle action) (taken : scheduler.modify id action = .ok (value, next)) :
    Modified scheduler next := by
  cases reached : scheduler.stage id with
  | unknown =>
      rw [modify_of_unknown reached] at taken
      cases taken
  | running =>
      obtain ⟨_, _, same, modified⟩ := filed.modify_of_running gentle reached
      cases same.symm.trans taken
      exact modified
  | finished =>
      obtain ⟨_, _, same, modified⟩ := filed.modify_of_finished gentle reached
      cases same.symm.trans taken
      exact modified
  | reclaimed =>
      rw [filed.modify_of_reclaimed reached] at taken
      cases taken

end Modify

theorem gentle_receive (message : Message) :
    Gentle fun workload : Workload => ((), workload.receive message) where
  named workload := Workload.id_eq_of_terms (workload.terms_receive message)
  ended workload ended := (workload.finished_receive message).trans ended

theorem gentle_tick (slice : Slice) :
    Gentle fun workload : Workload => workload.tick slice where
  named workload := Workload.id_eq_of_terms (workload.terms_tick slice)
  ended workload ended := by
    rw [Workload.tick, if_pos ended]
    exact ended

/-- What is asked of a single workload is done if it is running or finished. -/
theorem Filed.follows_of_modify {α : Type} (filed : scheduler.Filed) {request : Request}
    {action : Workload → α × Workload} (gentle : Gentle action) {id : WorkloadId}
    (asks : Lifecycle.step scheduler.stage (scheduler.ends request) request =
      match scheduler.stage id with
      | .running | .finished => .ok scheduler.stage
      | .reclaimed => .error (.workloadReclaimed id)
      | .unknown => .error (.unknownWorkload id))
    (performed : scheduler.perform request =
      scheduler.answer ((scheduler.modify id action).map Prod.snd)) :
    scheduler.Follows request := by
  rw [Follows, asks, performed]
  cases reached : scheduler.stage id with
  | unknown =>
      rw [modify_of_unknown reached]
      rfl
  | running =>
      obtain ⟨value, next, taken, modified⟩ := filed.modify_of_running gentle reached
      rw [taken]
      exact ⟨fun _ => Reply.noConfusion, modified.stage⟩
  | finished =>
      obtain ⟨value, next, taken, modified⟩ := filed.modify_of_finished gentle reached
      rw [taken]
      exact ⟨fun _ => Reply.noConfusion, modified.stage⟩
  | reclaimed =>
      rw [filed.modify_of_reclaimed reached]
      rfl

theorem Filed.follows_deliver (filed : scheduler.Filed) (id : WorkloadId) (message : Message) :
    scheduler.Follows (.deliver id message) :=
  filed.follows_of_modify (gentle_receive message) rfl rfl

theorem Filed.follows_advance (filed : scheduler.Filed) (id : WorkloadId) (slice : Slice) :
    scheduler.Follows (.advance id slice) :=
  filed.follows_of_modify (gentle_tick slice) rfl rfl

theorem mem_ending_ids {network : Network} {time : Seconds} {mips : List Binary64}
    {id : WorkloadId} :
    id ∈ (scheduler.ending network time mips).map Workload.id ↔
      scheduler.ends (.tick network time mips) id = true := by
  rw [ending, turned_eq, ends, List.any_eq_true]
  simp only [List.mem_map, List.mem_filter, Bool.and_eq_true, beq_iff_eq]
  constructor
  · rintro ⟨turned, ⟨⟨workload, active, rfl⟩, ended⟩, rfl⟩
    rw [Workload.finished_turn] at ended
    exact ⟨workload, active, (Workload.id_eq_of_terms (workload.terms_turn _ _ _ _)).symm, ended⟩
  · rintro ⟨workload, active, rfl, ended⟩
    refine ⟨_, ⟨⟨workload, active, rfl⟩, ?_⟩, Workload.id_eq_of_terms (workload.terms_turn _ _ _ _)⟩
    rw [Workload.finished_turn]
    exact ended

theorem Filed.follows_tick (filed : scheduler.Filed) (network : Network) (time : Seconds)
    (mips : List Binary64) : scheduler.Follows (.tick network time mips) := by
  refine ⟨fun _ => Reply.noConfusion, funext fun id => ?_⟩
  change (scheduler.tick network time mips).state.stage id = _
  have keys : id ∈ (scheduler.tick network time mips).state.finished.keys ↔ _ :=
    filed.tick_keys.mem_iff
  rw [List.mem_append, mem_ending_ids] at keys
  split
  · rename_i ended
    rw [filed.tick.stage_eq_finished, keys]
    exact .inl ended.2
  · rename_i goes
    rw [stage_eq_running] at goes
    have unended : scheduler.ends (.tick network time mips) id ≠ true := fun ended =>
      goes ⟨mem_ids_of_ending (mem_ending_ids.2 ended), ended⟩
    apply stage_congr
    · rw [tick_active]
      constructor
      · intro member
        rw [← scheduler.turned_ids network time mips]
        exact (List.filter_sublist.map _).subset member
      · intro member
        rw [← scheduler.turned_ids network time mips] at member
        obtain ⟨turned, listed, named⟩ := List.mem_map.1 member
        refine List.mem_map.2 ⟨turned, List.mem_filter.2 ⟨listed, ?_⟩, named⟩
        rw [Bool.not_eq_true']
        by_contra ended
        rw [Bool.not_eq_false] at ended
        exact unended (mem_ending_ids.1
          (List.mem_map.2 ⟨turned, List.mem_filter.2 ⟨listed, ended⟩, named⟩))
    · rw [keys]
      exact ⟨fun either => either.resolve_left unended, .inr⟩
    · rw [tick_reclaimed]

theorem reclaim_of_present {id : WorkloadId} {found : Workload}
    (present : scheduler.finished.get? id = some found) :
    scheduler.reclaim id =
      .ok (found,
        { scheduler with
          finished := scheduler.finished.erase id
          reclaimed := id :: scheduler.reclaimed
          counters :=
            { scheduler.counters with reclaims := scheduler.counters.reclaims + 1 } }) := by
  rw [reclaim, present]

theorem Filed.follows_reclaim (filed : scheduler.Filed) (id : WorkloadId) :
    scheduler.Follows (.reclaim id) := by
  rw [Follows, Lifecycle.step]
  cases reached : scheduler.stage id with
  | finished =>
      obtain ⟨found, present⟩ := Table.mem_keys.1 (filed.stage_eq_finished.1 reached)
      have taken := reclaim_of_present present
      have handed := reclaim_eq_ok taken
      simp only [perform, taken]
      refine ⟨fun _ => Reply.noConfusion, funext fun other => ?_⟩
      rw [Function.update_apply]
      split
      · rename_i same
        rw [same, (handed.filed filed).stage_eq_reclaimed]
        exact List.mem_cons_self
      · rename_i different
        apply stage_congr
        · exact Iff.rfl
        · rw [handed.keys.mem_iff, List.mem_cons]
          simp [different]
        · simp [different]
  | running =>
      have active := stage_eq_running.1 reached
      have unkept : id ∉ scheduler.finished.keys := fun kept =>
        filed.apart active (List.mem_append_left _ kept)
      have unreclaimed : id ∉ scheduler.reclaimed := fun reclaimed =>
        filed.apart active (List.mem_append_right _ reclaimed)
      have known : scheduler.isActive id = true := by simpa [isActive] using active
      simp [perform, Scheduler.reclaim, get?_of_unkept unkept, unreclaimed, known]
  | reclaimed =>
      have unkept : id ∉ scheduler.finished.keys := by
        rw [← filed.stage_eq_finished, reached]
        exact Stage.noConfusion
      have reclaimed := filed.stage_eq_reclaimed.1 reached
      simp [perform, Scheduler.reclaim, get?_of_unkept unkept, reclaimed]
  | unknown =>
      rw [stage_eq_unknown, mem_identities, not_or, not_or] at reached
      obtain ⟨inactive, unkept, unreclaimed⟩ := reached
      have unknown : scheduler.isActive id = false := by simpa [isActive] using inactive
      simp [perform, Scheduler.reclaim, get?_of_unkept unkept, unreclaimed, unknown]

theorem follows_signal (id : WorkloadId) : scheduler.Follows (.signal id) := by
  refine ⟨fun _ => Reply.noConfusion, ?_⟩
  rw [perform, signal]
  split <;> rfl

theorem Filed.follows (filed : scheduler.Filed) (request : Request) :
    scheduler.Follows request := by
  cases request with
  | submit workload => exact follows_submit workload
  | tick network time mips => exact filed.follows_tick network time mips
  | reclaim id => exact filed.follows_reclaim id
  | deliver id message => exact filed.follows_deliver id message
  | signal id => exact follows_signal id
  | takeCompleted => exact ⟨fun _ => Reply.noConfusion, rfl⟩
  | advance id slice => exact filed.follows_advance id slice

/-! ## Collecting completions -/

theorem completed_signal (scheduler : Scheduler) (id : WorkloadId) :
    scheduler.completed <+: (scheduler.signal id).2.completed := by
  rw [signal]
  split
  · exact List.prefix_rfl
  · exact List.prefix_append _ _

theorem completed_retireAll (scheduler : Scheduler) (done : List Workload) :
    scheduler.completed <+: (done.foldl retire scheduler).completed := by
  induction done generalizing scheduler with
  | nil => exact List.prefix_rfl
  | cons workload done induction =>
      exact (scheduler.completed_signal workload.id).trans (induction (scheduler.retire workload))

/-- What leads to another scheduler or is refused collects nothing. -/
theorem collects_of_answer {α : Type} {request : Request}
    {outcome : Except Fault (α × Scheduler)}
    (performed : scheduler.perform request = scheduler.answer (outcome.map Prod.snd))
    (other : request ≠ .takeCompleted)
    (kept : ∀ value next, outcome = .ok (value, next) → next.completed = scheduler.completed) :
    scheduler.Collects request := by
  refine ⟨fun collection => absurd collection other, fun _ => ?_⟩
  rw [performed]
  cases outcome with
  | error fault => exact ⟨rfl, List.prefix_rfl⟩
  | ok pair => exact ⟨rfl, (kept pair.1 pair.2 rfl) ▸ List.prefix_rfl⟩

theorem Filed.collects (filed : scheduler.Filed) (request : Request) :
    scheduler.Collects request := by
  cases request with
  | takeCompleted => exact ⟨fun _ => rfl, fun other => absurd rfl other⟩
  | submit workload =>
      refine collects_of_answer rfl nofun fun estimate next submitted => ?_
      obtain ⟨-, -, rfl⟩ := submit_eq_ok submitted
      rfl
  | tick network time mips =>
      have kept : scheduler.completed <+: (scheduler.tick network time mips).state.completed :=
        (scheduler.advanced network time mips).completed_retireAll _
      exact ⟨nofun, fun _ => ⟨rfl, kept⟩⟩
  | reclaim id =>
      refine ⟨nofun, fun _ => ?_⟩
      rw [perform]
      split
      · exact ⟨rfl, List.prefix_rfl⟩
      · rename_i taken
        exact ⟨rfl, (reclaim_eq_ok taken).completed ▸ List.prefix_rfl⟩
  | deliver id message =>
      refine collects_of_answer rfl nofun fun value next delivered => ?_
      exact (filed.modified (gentle_receive message) delivered).completed
  | signal id => exact ⟨nofun, fun _ => ⟨rfl, scheduler.completed_signal id⟩⟩
  | advance id slice =>
      refine collects_of_answer rfl nofun fun value next advanced => ?_
      exact (filed.modified (gentle_tick slice) advanced).completed

theorem Filed.obeys (filed : scheduler.Filed) (request : Request) : scheduler.Obeys request :=
  ⟨filed.follows request, filed.collects request⟩

end Requests

end Scheduler

end CoSimulation
