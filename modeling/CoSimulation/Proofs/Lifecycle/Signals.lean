import CoSimulation.Proofs.Lifecycle.Stages
import Mathlib.Data.Set.Card

/-!
# A scheduler over its whole life

Whatever is asked of a new scheduler, its lists, look-ups and counters agree with the
stages of its workloads.  Every workload is signalled at most once, and every signal is
collected once; if none comes from outside, those signalled are those that have ended.
-/

namespace CoSimulation

namespace Scheduler

/-! ## Look-ups and counters -/

/-- What a scheduler shows of its workloads agrees with their stages. -/
structure Agrees (scheduler : Scheduler) : Prop where
  contains : ∀ id, scheduler.contains id = true ↔ scheduler.stage id ≠ .unknown
  workload? : ∀ id, (scheduler.workload? id).isSome = true ↔
    scheduler.stage id = .running ∨ scheduler.stage id = .finished
  named : ∀ id workload, scheduler.workload? id = some workload → workload.id = id
  active : scheduler.active.length = {id | scheduler.stage id = .running}.ncard
  finished : scheduler.finished.size = {id | scheduler.stage id = .finished}.ncard
  reclaims : scheduler.counters.reclaims = {id | scheduler.stage id = .reclaimed}.ncard

theorem length_eq_ncard {ids : List WorkloadId} {property : WorkloadId → Prop}
    (distinct : ids.Nodup) (listed : ∀ id, property id ↔ id ∈ ids) :
    ids.length = {id | property id}.ncard := by
  have same : {id | property id} = (ids.toFinset : Set WorkloadId) := by
    ext id
    simp [listed]
  rw [same, Set.ncard_coe_finset, List.toFinset_card_of_nodup distinct]

section Agrees

variable {scheduler : Scheduler}

theorem Filed.isSome_workload?_iff (filed : scheduler.Filed) {id : WorkloadId} :
    (scheduler.workload? id).isSome = true ↔
      scheduler.stage id = .running ∨ scheduler.stage id = .finished := by
  rw [stage_eq_running, filed.stage_eq_finished, workload?]
  by_cases active : id ∈ scheduler.active.map Workload.id
  · obtain ⟨workload, member, named⟩ := List.mem_map.1 active
    have present : (scheduler.active.find? fun candidate => candidate.id == id).isSome = true :=
      List.find?_isSome.2 ⟨workload, member, by simpa using named⟩
    obtain ⟨found, first⟩ := Option.isSome_iff_exists.1 present
    simp [first, active]
  · rw [find?_of_inactive active]
    simp [active, ← Table.contains_iff, Table.contains]

theorem Filed.id_of_workload? (filed : scheduler.Filed) {id : WorkloadId} {workload : Workload}
    (found : scheduler.workload? id = some workload) : workload.id = id := by
  rw [workload?] at found
  split at found
  · rename_i first present
    cases found
    simpa using List.find?_some present
  · exact (filed.ended id workload found).1

theorem Filed.agrees (filed : scheduler.Filed)
    (reclaims : scheduler.counters.reclaims = scheduler.reclaimed.length) :
    scheduler.Agrees := by
  obtain ⟨running, settled, -⟩ := List.nodup_append.1 filed.distinct
  obtain ⟨kept, reclaimed, -⟩ := List.nodup_append.1 settled
  constructor
  · intro id
    rw [contains_iff, ne_eq, stage_eq_unknown, not_not]
  · exact fun id => filed.isSome_workload?_iff
  · exact fun id workload found => filed.id_of_workload? found
  · rw [← length_eq_ncard running fun id => stage_eq_running, List.length_map]
  · rw [← length_eq_ncard kept fun id => filed.stage_eq_finished, Table.keys, List.length_map]
    rfl
  · rw [← length_eq_ncard reclaimed fun id => filed.stage_eq_reclaimed, reclaims]

end Agrees

/-! ## Signals -/

/-- Every signal is for another workload, and it is collected or still to be. -/
structure Signals (collected : List WorkloadId) (scheduler : Scheduler) : Prop where
  once : scheduler.signalled.Nodup
  told : (collected ++ scheduler.completed).Perm scheduler.signalled

section Signals

variable {collected : List WorkloadId} {scheduler : Scheduler}

theorem Signals.congr {next : Scheduler} (signals : Signals collected scheduler)
    (signalled : next.signalled = scheduler.signalled)
    (completed : next.completed = scheduler.completed) : Signals collected next := by
  constructor
  · rw [signalled]
    exact signals.once
  · rw [signalled, completed]
    exact signals.told

theorem Signals.signal (signals : Signals collected scheduler) (id : WorkloadId) :
    Signals collected (scheduler.signal id).2 := by
  rw [Scheduler.signal]
  split
  · exact signals
  · rename_i unmarked
    have new : id ∉ scheduler.signalled := by simpa using unmarked
    constructor
    · exact List.nodup_cons.2 ⟨new, signals.once⟩
    · change (collected ++ (scheduler.completed ++ [id])).Perm (id :: scheduler.signalled)
      rw [← List.append_assoc]
      exact List.perm_append_comm.trans (signals.told.cons id)

theorem Signals.retireAll (signals : Signals collected scheduler) (done : List Workload) :
    Signals collected (done.foldl retire scheduler) := by
  induction done generalizing scheduler with
  | nil => exact signals
  | cons workload done induction =>
      exact induction ((signals.signal workload.id).congr rfl rfl)

end Signals

/-! ## Every request -/

/-- A scheduler that has performed requests, with the completions collected so far.  Those
signalled from outside are among the requests. -/
structure Accounted (requests : List Request) (collected : List WorkloadId)
    (scheduler : Scheduler) : Prop where
  filed : scheduler.Filed
  reclaims : scheduler.counters.reclaims = scheduler.reclaimed.length
  signals : Signals collected scheduler
  marked : ∀ id, id ∈ scheduler.signalled ↔
    Request.signal id ∈ requests ∨ id ∈ scheduler.settled

theorem accounted_create (gap : Seconds) : Accounted [] [] (create gap) where
  filed := (wellFormed_create gap).filed
  reclaims := rfl
  signals := ⟨List.nodup_nil, List.Perm.refl _⟩
  marked id := by simp [create, Scheduler.settled, Table.keys, Table.empty]

section Requests

variable {requests : List Request} {collected : List WorkloadId} {scheduler next : Scheduler}

theorem Accounted.submit (accounted : Accounted requests collected scheduler)
    {workload : Workload} {estimate : Seconds}
    (taken : scheduler.submit workload = .ok (estimate, next)) :
    Accounted requests collected next := by
  have filed := accounted.filed.submit taken
  obtain ⟨-, -, rfl⟩ := submit_eq_ok taken
  obtain ⟨-, reclaims, signals, marked⟩ := accounted
  exact ⟨filed, reclaims, signals.congr rfl rfl, marked⟩

theorem Accounted.tick (accounted : Accounted requests collected scheduler) (network : Network)
    (time : Seconds) (mips : List Binary64) :
    Accounted requests collected (scheduler.tick network time mips).state := by
  obtain ⟨filed, reclaims, signals, marked⟩ := accounted
  refine ⟨filed.tick, ?_, ?_, fun id => ?_⟩
  · rw [tick_reclaims, tick_reclaimed, reclaims]
  · have before : Signals collected (scheduler.advanced network time mips) :=
      signals.congr rfl rfl
    exact before.retireAll _
  · rw [mem_tick_signalled, marked, filed.tick_settled.mem_iff, List.mem_append]
    exact or_left_comm

theorem Accounted.reclaim (accounted : Accounted requests collected scheduler) {id : WorkloadId}
    {workload : Workload} (taken : scheduler.reclaim id = .ok (workload, next)) :
    Accounted requests collected next := by
  have handed := reclaim_eq_ok taken
  rw [reclaim_of_present handed.present] at taken
  obtain ⟨filed, reclaims, signals, marked⟩ := accounted
  refine ⟨handed.filed filed, ?_, signals.congr handed.signalled handed.completed,
    fun other => ?_⟩
  · cases taken
    exact congrArg (· + 1) reclaims
  · rw [handed.signalled, handed.settled.mem_iff]
    exact marked other

theorem Accounted.modified (accounted : Accounted requests collected scheduler)
    (modified : Modified scheduler next) : Accounted requests collected next := by
  obtain ⟨filed, reclaims, signals, marked⟩ := accounted
  refine ⟨modified.filed filed, ?_, signals.congr modified.signalled modified.completed,
    fun id => ?_⟩
  · rw [modified.counters, modified.reclaimed, reclaims]
  · rw [modified.signalled, modified.settled]
    exact marked id

theorem Accounted.takeCompleted (accounted : Accounted requests collected scheduler) :
    Accounted requests (collected ++ scheduler.takeCompleted.1) scheduler.takeCompleted.2 := by
  obtain ⟨filed, reclaims, signals, marked⟩ := accounted
  refine ⟨⟨filed.ended, filed.distinct⟩, reclaims, ⟨signals.once, ?_⟩, marked⟩
  rw [Scheduler.takeCompleted, List.append_nil]
  exact signals.told

/-- Requests that are no signals leave the outside as it is. -/
theorem Accounted.quietly (accounted : Accounted requests collected scheduler) {request : Request}
    (silent : ∀ id, Request.signal id ≠ request) :
    Accounted (requests ++ [request]) collected scheduler := by
  obtain ⟨filed, reclaims, signals, marked⟩ := accounted
  refine ⟨filed, reclaims, signals, fun id => ?_⟩
  rw [marked, List.mem_append, List.mem_singleton, or_iff_left (silent id)]

theorem Accounted.signal (accounted : Accounted requests collected scheduler)
    (id : WorkloadId) :
    Accounted (requests ++ [.signal id]) collected (scheduler.signal id).2 := by
  obtain ⟨filed, reclaims, signals, marked⟩ := accounted
  have signalled := signals.signal id
  rw [Scheduler.signal] at signalled ⊢
  split
  · rename_i known
    refine ⟨filed, reclaims, signals, fun other => ?_⟩
    rw [List.contains_iff_mem, marked] at known
    rw [marked, List.mem_append, List.mem_singleton, Request.signal.injEq]
    grind
  · rename_i new
    rw [if_neg new] at signalled
    refine ⟨⟨filed.ended, filed.distinct⟩, reclaims, signalled, fun other => ?_⟩
    change other ∈ id :: scheduler.signalled ↔ _ ∨ other ∈ scheduler.settled
    rw [List.mem_cons, marked, List.mem_append, List.mem_singleton, Request.signal.injEq]
    grind

theorem Accounted.answer {α : Type} (accounted : Accounted requests collected scheduler)
    (request : Request) (silent : ∀ id, Request.signal id ≠ request)
    {outcome : Except Fault (α × Scheduler)}
    (taken : ∀ value next, outcome = .ok (value, next) → Accounted requests collected next) :
    Accounted (requests ++ [request])
      (collected ++ (scheduler.answer (outcome.map Prod.snd)).1.reported)
      (scheduler.answer (outcome.map Prod.snd)).2 := by
  cases outcome with
  | error fault => exact (List.append_nil collected).symm ▸ accounted.quietly silent
  | ok pair => exact (List.append_nil collected).symm ▸ (taken pair.1 pair.2 rfl).quietly silent

theorem Accounted.perform (accounted : Accounted requests collected scheduler)
    (request : Request) :
    Accounted (requests ++ [request]) (collected ++ (scheduler.perform request).1.reported)
      (scheduler.perform request).2 := by
  cases request with
  | submit workload =>
      apply accounted.answer (.submit workload) (by simp)
      intro estimate next submitted
      exact accounted.submit submitted
  | tick network time mips =>
      exact (List.append_nil collected).symm ▸ (accounted.tick network time mips).quietly (by simp)
  | reclaim id =>
      rw [Scheduler.perform]
      split
      · exact (List.append_nil collected).symm ▸ accounted.quietly (by simp)
      · rename_i taken
        exact (List.append_nil collected).symm ▸ (accounted.reclaim taken).quietly (by simp)
  | deliver id message =>
      apply accounted.answer (.deliver id message) (by simp)
      intro value next modified
      exact accounted.modified (accounted.filed.modified (gentle_receive message) modified)
  | signal id => exact (List.append_nil collected).symm ▸ accounted.signal id
  | takeCompleted => exact accounted.takeCompleted.quietly (by simp)
  | advance id slice =>
      apply accounted.answer (.advance id slice) (by simp)
      intro value next modified
      exact accounted.modified (accounted.filed.modified (gentle_tick slice) modified)

/-! ## Many requests -/

theorem Accounted.after (accounted : Accounted requests collected scheduler)
    (more : List Request) :
    Accounted (requests ++ more) (collected ++ scheduler.reported more)
      (scheduler.after more) := by
  induction more generalizing requests collected scheduler with
  | nil =>
      rw [List.append_nil, Scheduler.reported, List.append_nil]
      exact accounted
  | cons request rest induction =>
      have performed := induction (accounted.perform request)
      rw [List.append_assoc, List.append_assoc] at performed
      exact performed

theorem Filed.rank_le_perform (filed : scheduler.Filed) (request : Request) (id : WorkloadId) :
    (scheduler.stage id).rank ≤ ((scheduler.perform request).2.stage id).rank := by
  have follows := filed.follows request
  rw [Follows] at follows
  split at follows
  · rw [follows]
  · rename_i life stepped
    rw [follows.2]
    exact Lifecycle.rank_le_of_step stepped id

theorem Accounted.rank_le_after (accounted : Accounted requests collected scheduler)
    (more : List Request) (id : WorkloadId) :
    (scheduler.stage id).rank ≤ ((scheduler.after more).stage id).rank := by
  induction more generalizing requests collected scheduler with
  | nil => exact Nat.le_refl _
  | cons request rest induction =>
      have first := accounted.filed.rank_le_perform request id
      exact first.trans (induction (accounted.perform request))

theorem Accounted.mem_told (accounted : Accounted requests collected scheduler)
    (id : WorkloadId) :
    id ∈ collected ++ scheduler.completed ↔
      Request.signal id ∈ requests ∨ scheduler.stage id = .finished ∨
        scheduler.stage id = .reclaimed := by
  rw [accounted.signals.told.mem_iff, accounted.marked, Scheduler.settled, List.mem_append,
    accounted.filed.stage_eq_finished, accounted.filed.stage_eq_reclaimed]

theorem Filed.returned (filed : scheduler.Filed) {id : WorkloadId}
    (finished : scheduler.stage id = .finished) :
    ∃ workload next, scheduler.perform (.reclaim id) = (.returned workload, next) ∧
      workload.id = id ∧ workload.finished = true := by
  obtain ⟨workload, present⟩ := Table.mem_keys.1 (filed.stage_eq_finished.1 finished)
  refine ⟨workload, (scheduler.perform (.reclaim id)).2, ?_, filed.ended id workload present⟩
  rw [perform, reclaim_of_present present]

end Requests

/-- Whatever a new scheduler performs, its workloads go through their stages in order, and
each request is answered and moves them as the lifecycle says. -/
theorem refines_lifecycle (gap : Seconds) (requests : List Request) :
    let reached := (create gap).after requests
    let told := (create gap).reported requests ++ reached.completed
    (∀ id, (create gap).stage id = .unknown) ∧
      reached.identities.Nodup ∧
      (∀ request, reached.Obeys request) ∧
      (∀ id, reached.stage id = .finished →
        ∃ workload next, reached.perform (.reclaim id) = (.returned workload, next) ∧
          workload.id = id ∧ workload.finished = true) ∧
      (∀ more id, (reached.stage id).rank ≤ ((reached.after more).stage id).rank) ∧
      reached.Agrees ∧
      told.Nodup ∧
      ∀ id, id ∈ told ↔ Request.signal id ∈ requests ∨ reached.stage id = .finished ∨
        reached.stage id = .reclaimed := by
  intro reached told
  have accounted := (accounted_create gap).after requests
  rw [List.nil_append, List.nil_append] at accounted
  exact ⟨fun _ => rfl, accounted.filed.distinct, accounted.filed.obeys,
    fun _ finished => accounted.filed.returned finished, accounted.rank_le_after,
    accounted.filed.agrees accounted.reclaims,
    accounted.signals.told.nodup_iff.2 accounted.signals.once, accounted.mem_told⟩

end Scheduler

end CoSimulation
