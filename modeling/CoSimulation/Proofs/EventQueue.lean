import CoSimulation.EventQueue
import CoSimulation.Proofs.Binary64.Instant

/-!
# The order of the future-event list

The clock shows an instant, no event is due before it, and the events wait in the
order of their times.  Scheduling and taking events keep this, whatever the delays
are: a delay of NaN counts as none, too.
-/

namespace CoSimulation.EventQueue

open Binary64

variable {α : Type}

/-! ## Insertion -/

theorem totalCompare_lt_iff {x y : Binary64} :
    (x.totalCompare y == .lt) = true ↔ x.rank < y.rank := by
  simp [totalCompare, Int.compare_eq_lt]

theorem insert_cons (entry next : Scheduled α) (rest : List (Scheduled α)) :
    insert entry (next :: rest) =
      if entry.time.rank < next.time.rank then entry :: next :: rest
      else next :: insert entry rest := by
  simp only [insert, totalCompare_lt_iff]

theorem insert_perm (entry : Scheduled α) (pending : List (Scheduled α)) :
    (insert entry pending).Perm (entry :: pending) := by
  induction pending with
  | nil => exact List.Perm.refl _
  | cons next rest induction =>
      rw [insert]
      split
      · exact List.Perm.refl _
      · exact (List.Perm.cons next induction).trans (List.Perm.swap entry next rest)

theorem mem_insert {entry other : Scheduled α} {pending : List (Scheduled α)} :
    other ∈ insert entry pending ↔ other = entry ∨ other ∈ pending := by
  rw [(insert_perm entry pending).mem_iff, List.mem_cons]

/-- What holds between the events of a sorted list and a new one holds of the list with it. -/
theorem insert_pairwise {related : Scheduled α → Scheduled α → Prop} {entry : Scheduled α}
    {pending : List (Scheduled α)}
    (sorted : pending.Pairwise fun earlier later => earlier.time.rank ≤ later.time.rank)
    (pairs : pending.Pairwise related)
    (behind : ∀ other ∈ pending, other.time.rank ≤ entry.time.rank → related other entry)
    (ahead : ∀ other ∈ pending, entry.time.rank < other.time.rank → related entry other) :
    (insert entry pending).Pairwise related := by
  induction pending with
  | nil => exact List.pairwise_singleton _ _
  | cons next rest induction =>
      obtain ⟨least, tail⟩ := List.pairwise_cons.1 sorted
      obtain ⟨first, others⟩ := List.pairwise_cons.1 pairs
      rw [insert_cons]
      split
      · rename_i sooner
        refine List.pairwise_cons.2 ⟨fun other member => ahead other member ?_, pairs⟩
        rcases List.mem_cons.1 member with same | later
        · rwa [same]
        · exact Int.lt_of_lt_of_le sooner (least other later)
      · rename_i notSooner
        refine List.pairwise_cons.2 ⟨fun other member => ?_, ?_⟩
        · rcases mem_insert.1 member with rfl | old
          · exact behind next List.mem_cons_self (Int.not_lt.1 notSooner)
          · exact first other old
        · exact induction tail others
            (fun other member => behind other (List.mem_cons_of_mem _ member))
            (fun other member => ahead other (List.mem_cons_of_mem _ member))

theorem insert_sorted {entry : Scheduled α} {pending : List (Scheduled α)}
    (sorted : pending.Pairwise fun earlier later => earlier.time.rank ≤ later.time.rank) :
    (insert entry pending).Pairwise
      fun earlier later => earlier.time.rank ≤ later.time.rank :=
  insert_pairwise sorted sorted (fun _ _ notAfter => notAfter) fun _ _ sooner =>
    Int.le_of_lt sooner

/-! ## The invariant -/

/-- The clock is an instant, and the events to come are sorted and not overdue. -/
structure Ordered (queue : EventQueue α) : Prop where
  clock : queue.now.IsInstant
  instants : ∀ entry ∈ queue.pending, entry.time.IsInstant
  upcoming : ∀ entry ∈ queue.pending, queue.now.rank ≤ entry.time.rank
  sorted : queue.pending.Pairwise fun earlier later => earlier.time.rank ≤ later.time.rank

theorem ordered_empty : (empty : EventQueue α).Ordered where
  clock := isInstant_zero
  instants := by simp [empty]
  upcoming := by simp [empty]
  sorted := by simp [empty]

/-- When an event is due that is scheduled a delay from now. -/
def dueTime (queue : EventQueue α) (delay : Seconds) : Seconds := queue.now + delay.max 0

theorem dueTime_isInstant {queue : EventQueue α} (clock : queue.now.IsInstant)
    (delay : Seconds) : (queue.dueTime delay).IsInstant :=
  clock.add (max_zero_nonneg delay)

theorem now_le_dueTime {queue : EventQueue α} (clock : queue.now.IsInstant)
    (delay : Seconds) : queue.now.rank ≤ (queue.dueTime delay).rank :=
  rank_le_add clock (max_zero_nonneg delay)

@[simp] theorem dueTime_zero {queue : EventQueue α} (clock : queue.now.IsInstant) :
    queue.dueTime 0 = queue.now := by
  have none : (0 : Seconds).max 0 = 0 := by
    simp [zero_eq]
    rfl
  rw [dueTime, none, add_zero clock]

theorem dueTime_of_pos {queue : EventQueue α} {delay : Seconds} (positive : 0 < delay) :
    queue.dueTime delay = queue.now + delay := by
  rw [dueTime, max_zero_of_pos positive]

theorem schedule_pending (queue : EventQueue α) (target : Nat) (delay : Seconds)
    (event : α) :
    (queue.schedule target delay event).pending =
      insert { time := queue.dueTime delay, target := target, event := event }
        queue.pending := rfl

theorem Ordered.schedule {queue : EventQueue α} (ordered : queue.Ordered) (target : Nat)
    (delay : Seconds) (event : α) : (queue.schedule target delay event).Ordered where
  clock := ordered.clock
  instants := by
    intro entry member
    rw [schedule_pending] at member
    rcases mem_insert.1 member with same | old
    · rw [same]
      exact dueTime_isInstant ordered.clock delay
    · exact ordered.instants entry old
  upcoming := by
    intro entry member
    rw [schedule_pending] at member
    rcases mem_insert.1 member with same | old
    · rw [same]
      exact now_le_dueTime ordered.clock delay
    · exact ordered.upcoming entry old
  sorted := insert_sorted ordered.sorted

theorem pop?_eq_some {queue rest : EventQueue α} {entry : Scheduled α} :
    queue.pop? = some (entry, rest) ↔
      queue.pending = entry :: rest.pending ∧ rest.now = entry.time := by
  obtain ⟨now, pending⟩ := queue
  obtain ⟨later, waiting⟩ := rest
  cases pending with
  | nil => simp [pop?]
  | cons next others =>
      simp only [pop?, Option.some.injEq, Prod.mk.injEq, EventQueue.mk.injEq, List.cons.injEq]
      constructor
      · rintro ⟨rfl, rfl, rfl⟩
        exact ⟨⟨rfl, rfl⟩, rfl⟩
      · rintro ⟨⟨rfl, rfl⟩, rfl⟩
        exact ⟨rfl, rfl, rfl⟩

theorem pop?_eq_none {queue : EventQueue α} : queue.pop? = none ↔ queue.pending = [] := by
  obtain ⟨now, pending⟩ := queue
  cases pending <;> simp [pop?]

section Pop

variable {queue rest : EventQueue α} {entry : Scheduled α}

/-- Taking an event moves the clock to its time and leaves the others in order. -/
theorem Ordered.pop (ordered : queue.Ordered) (popped : queue.pop? = some (entry, rest)) :
    rest.Ordered := by
  obtain ⟨listed, shown⟩ := pop?_eq_some.1 popped
  have sorted := ordered.sorted
  rw [listed] at sorted
  obtain ⟨first, tail⟩ := List.pairwise_cons.1 sorted
  have member {other : Scheduled α} (old : other ∈ rest.pending) : other ∈ queue.pending :=
    listed ▸ List.mem_cons_of_mem _ old
  exact
    { clock := shown ▸ ordered.instants entry (listed ▸ List.mem_cons_self)
      instants := fun other old => ordered.instants other (member old)
      upcoming := fun other old => shown ▸ first other old
      sorted := tail }

end Pop

end CoSimulation.EventQueue
