import CoSimulation.Proofs.Datacenter.Handling
import CoSimulation.Proofs.EventQueue
import CoSimulation.Simulation

/-!
# Single events of a simulation

What is dispatched joins the events to come, each at its time.  Handling an event
takes it from the queue, replaces the datacenter it is addressed to, collects the
completions and dispatches what the datacenter asks for; a fault that is not fatal
is counted.
-/

namespace CoSimulation

namespace EventQueue

def entryOf (queue : EventQueue Event) (dispatch : Dispatch) : Scheduled Event :=
  { time := queue.dueTime dispatch.delay, target := dispatch.target, event := dispatch.event }

def sum {M : Type} [AddCommMonoid M] (quantity : Event → M) (queue : EventQueue Event) : M :=
  (queue.pending.map fun entry => quantity entry.event).sum

theorem dispatch_cons (queue : EventQueue Event) (first : Dispatch) (rest : List Dispatch) :
    queue.dispatch (first :: rest) =
      (queue.schedule first.target first.delay first.event).dispatch rest := rfl

@[simp] theorem dispatch_now (queue : EventQueue Event) (dispatches : List Dispatch) :
    (queue.dispatch dispatches).now = queue.now := by
  induction dispatches generalizing queue with
  | nil => rfl
  | cons first rest induction =>
      rw [dispatch_cons, induction]
      rfl

theorem Ordered.dispatch {queue : EventQueue Event} (ordered : queue.Ordered)
    (dispatches : List Dispatch) : (queue.dispatch dispatches).Ordered := by
  induction dispatches generalizing queue with
  | nil => exact ordered
  | cons first rest induction => exact induction (ordered.schedule _ _ _)

theorem dispatch_perm (queue : EventQueue Event) (dispatches : List Dispatch) :
    (queue.dispatch dispatches).pending.Perm
      (dispatches.map queue.entryOf ++ queue.pending) := by
  induction dispatches generalizing queue with
  | nil => exact List.Perm.refl _
  | cons first rest induction =>
      rw [dispatch_cons]
      apply (induction _).trans
      rw [schedule_pending]
      exact (List.Perm.append_left _ (insert_perm _ _)).trans List.perm_middle

theorem mem_dispatch {queue : EventQueue Event} {dispatches : List Dispatch}
    {entry : Scheduled Event} :
    entry ∈ (queue.dispatch dispatches).pending ↔
      (∃ dispatch ∈ dispatches, queue.entryOf dispatch = entry) ∨ entry ∈ queue.pending := by
  rw [(queue.dispatch_perm dispatches).mem_iff, List.mem_append, List.mem_map]

theorem sum_dispatch {M : Type} [AddCommMonoid M] (quantity : Event → M)
    (queue : EventQueue Event) (dispatches : List Dispatch) :
    (queue.dispatch dispatches).sum quantity =
      (dispatches.map fun dispatch => quantity dispatch.event).sum + queue.sum quantity := by
  have permuted := (queue.dispatch_perm dispatches).map fun entry => quantity entry.event
  rw [sum, permuted.sum_eq, List.map_append, List.sum_append, List.map_map]
  rfl

theorem sum_pop {M : Type} [AddCommMonoid M] (quantity : Event → M)
    {queue rest : EventQueue Event} {entry : Scheduled Event}
    (popped : queue.pop? = some (entry, rest)) :
    queue.sum quantity = quantity entry.event + rest.sum quantity := by
  rw [sum, (pop?_eq_some.1 popped).1, List.map_cons, List.sum_cons]
  rfl

end EventQueue

namespace Simulation

/-- What never changes about the datacenters. -/
def layout (simulation : Simulation) : Table Datacenter.Layout :=
  simulation.datacenters.map Datacenter.layout

theorem owns_eq_true {simulation : Simulation} {datacenter : DatacenterId} {host : HostId} :
    simulation.owns datacenter host = true ↔
      ∃ found, simulation.datacenters.get? datacenter = some found ∧
        (found.host? host).isSome = true := by
  rw [owns]
  cases simulation.datacenters.get? datacenter with
  | none => simp
  | some found => simp

theorem owns_of_layout {left right : Simulation} (same : left.layout = right.layout) :
    left.owns = right.owns := by
  funext datacenter host
  have found := congrArg (fun table => table.get? datacenter) same
  simp only [layout, Table.get?_map] at found
  rw [owns, owns]
  cases onLeft : left.datacenters.get? datacenter with
  | none =>
      rw [onLeft] at found
      rw [Option.map_eq_none_iff.1 found.symm]
  | some before =>
      rw [onLeft] at found
      obtain ⟨after, onRight, equal⟩ := Option.map_eq_some_iff.1 found.symm
      rw [onRight]
      exact (Datacenter.isSome_host?_of_layout equal host).symm

/-- When a run has come to its end, everything that waits is due after its limit. -/
theorem limit_lt_of_step?_eq_none {simulation : Simulation} {registry : Registry}
    {limit : Seconds} (ordered : simulation.queue.Ordered)
    (settled : simulation.step? registry limit = none) {entry : Scheduled Event}
    (waits : entry ∈ simulation.queue.pending) : limit < entry.time := by
  rw [step?] at settled
  split at settled
  · rename_i nothing
    rw [EventQueue.pop?_eq_none.1 nothing] at waits
    cases waits
  · rename_i first rest popped
    obtain ⟨listed, -⟩ := EventQueue.pop?_eq_some.1 popped
    have firstInstant := ordered.instants first (listed ▸ List.mem_cons_self)
    have instant := ordered.instants entry waits
    have sorted := ordered.sorted
    rw [listed] at sorted waits
    have least : first.time.rank ≤ entry.time.rank := by
      rcases List.mem_cons.1 waits with same | later
      · exact Int.le_of_eq (congrArg (·.time.rank) same.symm)
      · exact (List.pairwise_cons.1 sorted).1 entry later
    split at settled
    · rename_i beyond
      obtain ⟨numeric, -, below⟩ := Binary64.lt_iff.1 beyond
      rw [firstInstant.position_eq] at below
      apply Binary64.lt_iff.2
      refine ⟨numeric, instant.isNaN_eq, ?_⟩
      rw [instant.position_eq]
      omega
    · cases settled

theorem time_ne_zero_of_step?_eq_none {simulation : Simulation} {registry : Registry}
    {limit : Seconds} (ordered : simulation.queue.Ordered) (nonneg : 0 ≤ limit)
    (settled : simulation.step? registry limit = none) {entry : Scheduled Event}
    (waits : entry ∈ simulation.queue.pending) : entry.time ≠ 0 := by
  intro zero
  have later := limit_lt_of_step?_eq_none ordered settled waits
  obtain ⟨-, -, above⟩ := Binary64.le_iff.1 nonneg
  obtain ⟨-, -, below⟩ := Binary64.lt_iff.1 later
  rw [zero] at below
  omega

/-- A datacenter has reacted to an event that was taken from the queue. -/
structure Absorbed (before : Simulation) (entry : Scheduled Event) (rest : EventQueue Event)
    (reaction : Reaction Datacenter Unit) (fault : Option Fault) (after : Simulation) :
    Prop where
  queue : after.queue = rest.dispatch reaction.dispatches
  datacenters : after.datacenters =
    before.datacenters.insert entry.target { reaction.state with completed := [] }
  completed : after.completed =
    before.completed ++ reaction.state.completed.map fun workload => (entry.target, workload)
  started : after.started = before.started
  completions : after.counters.completions =
    before.counters.completions + reaction.state.completed.length
  counted :
    (reaction.result = .ok () ∧ fault = none ∧
      after.counters.violations = before.counters.violations) ∨
    ∃ raised, reaction.result = .error raised ∧
      ((raised.isFatal = true ∧ fault = some raised ∧
          after.counters.violations = before.counters.violations) ∨
        (raised.isFatal = false ∧ fault = none ∧
          after.counters.violations = before.counters.violations + 1))

theorem Absorbed.get?_target {before after : Simulation} {entry : Scheduled Event}
    {rest : EventQueue Event} {reaction : Reaction Datacenter Unit} {fault : Option Fault}
    (absorbed : Absorbed before entry rest reaction fault after) :
    after.datacenters.get? entry.target = some { reaction.state with completed := [] } := by
  rw [absorbed.datacenters]
  exact Table.get?_insert_self _ _ _

theorem Absorbed.get?_datacenter {before after : Simulation} {entry : Scheduled Event}
    {rest : EventQueue Event} {reaction : Reaction Datacenter Unit} {fault : Option Fault}
    (absorbed : Absorbed before entry rest reaction fault after) {id : DatacenterId}
    {datacenter : Datacenter} (present : after.datacenters.get? id = some datacenter) :
    (id = entry.target ∧ datacenter = { reaction.state with completed := [] }) ∨
      (id ≠ entry.target ∧ before.datacenters.get? id = some datacenter) := by
  rw [absorbed.datacenters] at present
  exact Table.of_get?_insert present

/-- A step takes the next event and hands it to its datacenter, if that exists. -/
theorem step?_cases {simulation next : Simulation} {registry : Registry} {limit : Seconds}
    {fault : Option Fault} (stepped : simulation.step? registry limit = some (fault, next)) :
    ∃ entry rest, simulation.queue.pop? = some (entry, rest) ∧ ¬ limit < entry.time ∧
      ((simulation.datacenters.get? entry.target = none ∧
          next = { simulation with queue := rest }) ∨
        ∃ datacenter, simulation.datacenters.get? entry.target = some datacenter ∧
          Absorbed simulation entry rest
            (datacenter.handle { registry := registry, now := entry.time } entry.event)
            fault next) := by
  rw [step?] at stepped
  split at stepped
  · cases stepped
  · rename_i entry rest popped
    obtain ⟨listed, shown⟩ := EventQueue.pop?_eq_some.1 popped
    split at stepped
    · cases stepped
    · rename_i due
      refine ⟨entry, rest, popped, due, ?_⟩
      rw [Option.some.injEq, process] at stepped
      cases found : simulation.datacenters.get? entry.target with
      | none =>
          simp only [found] at stepped
          cases stepped
          exact .inl ⟨rfl, rfl⟩
      | some datacenter =>
          refine .inr ⟨datacenter, rfl, ?_⟩
          simp only [found] at stepped
          simp only [now, shown] at stepped
          cases result : (datacenter.handle { registry := registry, now := entry.time }
              entry.event).result with
          | ok value =>
              rw [result] at stepped
              cases stepped
              exact ⟨rfl, rfl, rfl, rfl, by simp [absorb, Datacenter.takeCompleted],
                .inl ⟨result, rfl, rfl⟩⟩
          | error raised =>
              rw [result] at stepped
              simp only at stepped
              split at stepped
              · rename_i fatal
                cases stepped
                exact ⟨rfl, rfl, rfl, rfl, by simp [absorb, Datacenter.takeCompleted],
                  .inr ⟨raised, result, .inl ⟨fatal, rfl, rfl⟩⟩⟩
              · rename_i mild
                cases stepped
                exact ⟨rfl, rfl, rfl, rfl, by simp [absorb, violated, Datacenter.takeCompleted],
                  .inr ⟨raised, result, .inr ⟨by simpa using mild, rfl, rfl⟩⟩⟩

theorem step?_eq_some {simulation next : Simulation} {registry : Registry} {limit : Seconds}
    {fault : Option Fault}
    (targets : ∀ entry ∈ simulation.queue.pending,
      ∃ datacenter, simulation.datacenters.get? entry.target = some datacenter)
    (stepped : simulation.step? registry limit = some (fault, next)) :
    ∃ entry rest datacenter, simulation.queue.pop? = some (entry, rest) ∧
      ¬ limit < entry.time ∧ simulation.datacenters.get? entry.target = some datacenter ∧
        Absorbed simulation entry rest
          (datacenter.handle { registry := registry, now := entry.time } entry.event)
          fault next := by
  obtain ⟨entry, rest, popped, due, ⟨missing, -⟩ | ⟨datacenter, found, absorbed⟩⟩ :=
    step?_cases stepped
  · obtain ⟨listed, -⟩ := EventQueue.pop?_eq_some.1 popped
    obtain ⟨datacenter, found⟩ := targets entry (listed ▸ List.mem_cons_self)
    cases missing.symm.trans found
  · exact ⟨entry, rest, datacenter, popped, due, found, absorbed⟩

end Simulation

end CoSimulation
