import CoSimulation.Proofs.Arrivals.Turns
import CoSimulation.Proofs.Simulation

/-!
# Messages in the queue

Messages along edges on which only one datacenter sends are dispatched in the order in
which they are due, because each slice of this datacenter begins after the one before.  The
queue delivers a message when it is due or, if the delay in seconds was rounded, one step of
the clock later; a message that is due in the past is delivered at once.  So a message that
leaves the queue before another one that is due earlier leaves it together with that one.

If no message of some kind is overdue when it is dispatched, all of them leave the queue in
time, whoever sends them.
-/

namespace CoSimulation

open Binary64

/-- The event delivers a chosen message. -/
def Event.Bears (event : Event) (chosen : Selection) (message : Message) : Prop :=
  event = .deliver message ∧ message.Among chosen

namespace EventQueue

/-- A chosen message leaves the queue at a time. -/
def Carries (queue : EventQueue Event) (chosen : Selection) (leaves : Seconds)
    (message : Message) : Prop :=
  ∃ entry ∈ queue.pending, entry.time = leaves ∧ entry.event.Bears chosen message

/-- The chosen messages are all due up to `bound`, and they leave the queue hardly later than
they are due, none too late for one that leaves before. -/
structure Aligned (chosen : Selection) (bound : Seconds) (queue : EventQueue Event) : Prop where
  limited : ∀ entry ∈ queue.pending, ∀ message, entry.event.Bears chosen message →
    message.destTime.rank ≤ bound.rank
  punctual : ∀ entry ∈ queue.pending, ∀ message, entry.event.Bears chosen message →
    entry.time.rank ≤ max queue.now.rank (message.destTime.rank + 1)
  trailing : queue.pending.Pairwise fun first second =>
    ∀ earlier later, first.event.Bears chosen earlier → second.event.Bears chosen later →
      later.Trails second.time earlier.destTime

variable {chosen : Selection} {Fine : Seconds → Prop} {bound next : Seconds}
  {queue rest : EventQueue Event}

theorem rank_dueTime_le (clock : queue.now.IsInstant) {due : Seconds} (instant : due.IsInstant) :
    (queue.dueTime ((due - queue.now).max 0)).rank ≤ max queue.now.rank (due.rank + 1) := by
  rw [dueTime]
  by_cases ahead : 0 < due - queue.now
  · rw [max_zero_of_pos ahead, max_zero_of_pos ahead]
    exact rank_add_wait_le clock instant ahead
  · rw [add_max_zero_of_not_pos clock (not_pos_max_zero ahead)]
    exact Int.le_max_left _ _

/-- A chosen message that is dispatched is due at a fine time, and it is to be delivered
then. -/
def Supplies (chosen : Selection) (Fine : Seconds → Prop) (now : Seconds)
    (dispatch : Dispatch) : Prop :=
  ∀ message, dispatch.event.Bears chosen message →
    Fine message.destTime ∧ message.destTime.IsInstant ∧
      dispatch.delay = (message.destTime - now).max 0

/-- No chosen message leaves more than one step of the clock too late. -/
def Prompt (chosen : Selection) (queue : EventQueue Event) : Prop :=
  ∀ entry ∈ queue.pending, ∀ message, entry.event.Bears chosen message →
    entry.time.rank ≤ message.destTime.rank + 1

theorem Aligned.later (aligned : queue.Aligned chosen bound) (le : bound.rank ≤ next.rank) :
    queue.Aligned chosen next :=
  { aligned with
    limited := fun entry member message bears =>
      Int.le_trans (aligned.limited entry member message bears) le }

theorem Aligned.pop (aligned : queue.Aligned chosen bound) (ordered : queue.Ordered)
    {entry : Scheduled Event} (popped : queue.pop? = some (entry, rest)) :
    rest.Aligned chosen bound := by
  obtain ⟨listed, shown⟩ := pop?_eq_some.1 popped
  have waited {other : Scheduled Event} (member : other ∈ rest.pending) :
      other ∈ queue.pending := listed ▸ List.mem_cons_of_mem _ member
  have forward : queue.now.rank ≤ rest.now.rank :=
    shown ▸ ordered.upcoming entry (listed ▸ List.mem_cons_self)
  have trailing := aligned.trailing
  rw [listed] at trailing
  constructor
  · exact fun other member => aligned.limited other (waited member)
  · intro other member message bears
    have punctual := aligned.punctual other (waited member) message bears
    omega
  · exact (List.pairwise_cons.1 trailing).2

theorem Supplies.punctual (ordered : queue.Ordered) {dispatch : Dispatch}
    (supplies : Supplies chosen Fine queue.now dispatch) {message : Message}
    (bears : dispatch.event.Bears chosen message) :
    Fine message.destTime ∧
      (queue.entryOf dispatch).time.rank ≤ max queue.now.rank (message.destTime.rank + 1) := by
  obtain ⟨fine, instant, delay⟩ := supplies message bears
  refine ⟨fine, ?_⟩
  change (queue.dueTime dispatch.delay).rank ≤ _
  rw [delay]
  exact rank_dueTime_le ordered.clock instant

theorem Aligned.schedule (aligned : queue.Aligned chosen bound) (ordered : queue.Ordered)
    {dispatch : Dispatch} (supplies : Supplies chosen (· = bound) queue.now dispatch) :
    (queue.schedule dispatch.target dispatch.delay dispatch.event).Aligned chosen bound := by
  let entry := queue.entryOf dispatch
  have late (message : Message) (bears : dispatch.event.Bears chosen message) :
      message.destTime = bound ∧
        entry.time.rank ≤ max queue.now.rank (message.destTime.rank + 1) :=
    supplies.punctual ordered bears
  have members {other : Scheduled Event} (member : other ∈ insert entry queue.pending) :
      other = entry ∨ other ∈ queue.pending := mem_insert.1 member
  constructor
  · intro other member message bears
    rcases members member with rfl | old
    · exact Int.le_of_eq (congrArg rank (late message bears).1)
    · exact aligned.limited other old message bears
  · intro other member message bears
    rcases members member with rfl | old
    · exact (late message bears).2
    · exact aligned.punctual other old message bears
  · apply insert_pairwise ordered.sorted aligned.trailing
    · intro other old _ earlier later first second
      rw [Message.Trails, (late later second).1]
      exact .inl (aligned.limited other old earlier first)
    · -- what leaves after the new message is not overdue
      intro other old (after : entry.time.rank < other.time.rank) earlier later first second
      have punctual := aligned.punctual other old later second
      have upcoming : queue.now.rank ≤ entry.time.rank := now_le_dueTime ordered.clock _
      exact .inr (by omega)

theorem Aligned.dispatch {dispatches : List Dispatch} (aligned : queue.Aligned chosen bound)
    (ordered : queue.Ordered)
    (supplies : ∀ dispatch ∈ dispatches, Supplies chosen (· = bound) queue.now dispatch) :
    (queue.dispatch dispatches).Aligned chosen bound := by
  induction dispatches generalizing queue with
  | nil => exact aligned
  | cons first others induction =>
      exact induction
        (aligned.schedule ordered (supplies first List.mem_cons_self))
        (ordered.schedule _ _ _)
        fun dispatch member => supplies dispatch (List.mem_cons_of_mem _ member)

theorem Prompt.pop (prompt : queue.Prompt chosen) {entry : Scheduled Event}
    (popped : queue.pop? = some (entry, rest)) : rest.Prompt chosen := by
  obtain ⟨listed, -⟩ := pop?_eq_some.1 popped
  exact fun other member => prompt other (listed ▸ List.mem_cons_of_mem _ member)

theorem Prompt.dispatch {dispatches : List Dispatch} (prompt : queue.Prompt chosen)
    (ordered : queue.Ordered)
    (supplies : ∀ dispatch ∈ dispatches,
      Supplies chosen (fun due => queue.now.rank ≤ due.rank) queue.now dispatch) :
    (queue.dispatch dispatches).Prompt chosen := by
  intro entry member message bears
  rcases mem_dispatch.1 member with ⟨dispatch, listed, rfl⟩ | old
  · obtain ⟨fine, punctual⟩ := (supplies dispatch listed).punctual ordered bears
    omega
  · exact prompt entry old message bears

theorem Prompt.trails (prompt : queue.Prompt chosen) {leaves time : Seconds} {message : Message}
    (carries : queue.Carries chosen leaves message) : message.Trails leaves time := by
  obtain ⟨entry, member, rfl, bears⟩ := carries
  exact .inr (prompt entry member message bears)

theorem Carries.of_dispatch {dispatches : List Dispatch} {leaves : Seconds} {message : Message}
    (carries : (queue.dispatch dispatches).Carries chosen leaves message)
    (supplies : ∀ dispatch ∈ dispatches, Supplies chosen Fine queue.now dispatch) :
    queue.Carries chosen leaves message ∨
      Fine message.destTime ∧ message.destTime.IsInstant := by
  obtain ⟨entry, member, leave, bears⟩ := carries
  rcases mem_dispatch.1 member with ⟨dispatch, listed, rfl⟩ | old
  · obtain ⟨fine, instant, -⟩ := supplies dispatch listed message bears
    exact .inr ⟨fine, instant⟩
  · exact .inl ⟨entry, old, leave, bears⟩

theorem Carries.of_pop {entry : Scheduled Event} {leaves : Seconds} {message : Message}
    (popped : queue.pop? = some (entry, rest)) (carries : rest.Carries chosen leaves message) :
    queue.Carries chosen leaves message := by
  obtain ⟨listed, -⟩ := pop?_eq_some.1 popped
  obtain ⟨other, member, leave, bears⟩ := carries
  exact ⟨other, listed ▸ List.mem_cons_of_mem _ member, leave, bears⟩

theorem Ordered.le_of_carries (ordered : queue.Ordered) {entry : Scheduled Event}
    (popped : queue.pop? = some (entry, rest)) {leaves : Seconds} {message : Message}
    (carries : queue.Carries chosen leaves message) : entry.time.rank ≤ leaves.rank := by
  obtain ⟨listed, shown⟩ := pop?_eq_some.1 popped
  obtain ⟨other, member, rfl, -⟩ := carries
  rw [listed] at member
  rcases List.mem_cons.1 member with rfl | behind
  · exact Int.le_refl _
  · exact shown ▸ (ordered.pop popped).upcoming other behind

/-- What is queued does not leave too late for the next message. -/
theorem Aligned.trails_of_pop (aligned : queue.Aligned chosen bound) {entry : Scheduled Event}
    (popped : queue.pop? = some (entry, rest)) {message later : Message} {leaves : Seconds}
    (bears : entry.event.Bears chosen message) (carries : queue.Carries chosen leaves later) :
    later.Trails leaves message.destTime := by
  obtain ⟨listed, -⟩ := pop?_eq_some.1 popped
  obtain ⟨other, member, rfl, second⟩ := carries
  have trailing := aligned.trailing
  rw [listed] at member trailing
  rcases List.mem_cons.1 member with rfl | behind
  · cases bears.1.symm.trans second.1
    exact .inl (Int.le_refl _)
  · exact (List.pairwise_cons.1 trailing).1 other behind message later bears second

end EventQueue

end CoSimulation
