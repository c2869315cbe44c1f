import CoSimulation.Proofs.EventQueue
import Mathlib.Data.List.Induction

/-!
# Service in the order of times

However scheduling and taking alternate, the events come out in the order of their
times, and those for one time in the order in which they were scheduled.  Every
event is numbered when it is scheduled.  A new event has the largest number of all,
so the place behind all events that are not due later is its place in the order of
times and numbers.  It is not due before the clock, which has passed every event
that was taken: this is why events that were taken long ago still precede it.
-/

namespace CoSimulation.EventQueue

open Binary64

variable {α : Type}

/-! ## Requests -/

inductive Request (α : Type) where
  | schedule (target : Nat) (delay : Seconds) (event : α)
  | pop

def perform (queue : EventQueue α) : Request α → EventQueue α
  | .schedule target delay event => queue.schedule target delay event
  | .pop => (queue.pop?.map Prod.snd).getD queue

def after (queue : EventQueue α) (requests : List (Request α)) : EventQueue α :=
  requests.foldl perform queue

/-- What can be seen of each request on the queue that it meets. -/
def collect {β : Type} (visible : EventQueue α → Request α → List β) (queue : EventQueue α) :
    List (Request α) → List β
  | [] => []
  | request :: later => visible queue request ++ collect visible (queue.perform request) later

/-- The events that are scheduled, each with the time at which it is due. -/
def booked : EventQueue α → List (Request α) → List (Scheduled α) :=
  collect fun queue request =>
    match request with
    | .schedule target delay event =>
        [{ time := queue.dueTime delay, target := target, event := event }]
    | .pop => []

/-- The events that are taken. -/
def taken : EventQueue α → List (Request α) → List (Scheduled α) :=
  collect fun queue request =>
    match request with
    | .schedule _ _ _ => []
    | .pop => (queue.pop?.map Prod.fst).toList

theorem after_concat (queue : EventQueue α) (requests : List (Request α))
    (request : Request α) :
    queue.after (requests ++ [request]) = (queue.after requests).perform request := by
  simp [after]

theorem collect_append {β : Type} (visible : EventQueue α → Request α → List β)
    (queue : EventQueue α) (early late : List (Request α)) :
    collect visible queue (early ++ late) =
      collect visible queue early ++ collect visible (queue.after early) late := by
  induction early generalizing queue with
  | nil => rfl
  | cons request early induction =>
      simp only [List.cons_append, collect, induction, List.append_assoc]
      rfl

theorem booked_schedule (requests : List (Request α)) (target : Nat) (delay : Seconds)
    (event : α) :
    empty.booked (requests ++ [.schedule target delay event]) =
      empty.booked requests ++
        [{ time := (empty.after requests).dueTime delay, target := target, event := event }] :=
  collect_append _ _ _ _

theorem booked_pop (requests : List (Request α)) :
    empty.booked (requests ++ [.pop]) = empty.booked requests := by
  apply (collect_append _ _ _ _).trans
  simp [collect, booked]

theorem taken_schedule (requests : List (Request α)) (target : Nat) (delay : Seconds)
    (event : α) :
    empty.taken (requests ++ [.schedule target delay event]) = empty.taken requests := by
  apply (collect_append _ _ _ _).trans
  simp [collect, taken]

theorem taken_pop (requests : List (Request α)) :
    empty.taken (requests ++ [.pop]) =
      empty.taken requests ++ ((empty.after requests).pop?.map Prod.fst).toList := by
  apply (collect_append _ _ _ _).trans
  simp [collect, taken]

theorem taken_length_mono {early requests : List (Request α)} (part : early <+: requests) :
    ((empty : EventQueue α).taken early).length ≤ (empty.taken requests).length := by
  obtain ⟨late, rfl⟩ := part
  simp [taken, collect_append]

/-! ## Bookings -/

/-- A scheduled event and how many were scheduled before it. -/
structure Booking (α : Type) where
  number : Nat
  entry : Scheduled α

/-- The order of times and, for one time, of scheduling. -/
def Booking.Precedes (earlier later : Booking α) : Prop :=
  earlier.entry.time < later.entry.time ∨
    (earlier.entry.time = later.entry.time ∧ earlier.number < later.number)

def bookings (requests : List (Request α)) : List (Booking α) :=
  (empty.booked requests).mapIdx Booking.mk

theorem bookings_schedule (requests : List (Request α)) (target : Nat) (delay : Seconds)
    (event : α) :
    bookings (requests ++ [.schedule target delay event]) =
      bookings requests ++
        [⟨(empty.booked requests).length,
          { time := (empty.after requests).dueTime delay, target := target, event := event }⟩] := by
  simp [bookings, booked_schedule]

theorem number_lt_of_mem {requests : List (Request α)} {booking : Booking α}
    (member : booking ∈ bookings requests) :
    booking.number < (empty.booked requests).length := by
  obtain ⟨place, bound, rfl⟩ := List.mem_mapIdx.1 member
  exact bound

theorem Booking.precedes_of_rank {earlier later : Booking α}
    (left : earlier.entry.time.IsInstant) (right : later.entry.time.IsInstant)
    (notLater : earlier.entry.time.rank ≤ later.entry.time.rank)
    (numbers : earlier.number < later.number) : earlier.Precedes later := by
  rcases Int.lt_or_eq_of_le notLater with less | same
  · exact .inl ((left.lt_iff right).2 less)
  · exact .inr ⟨Binary64.eq_of_rank_eq same, numbers⟩

theorem Booking.Precedes.rank_le {earlier later : Booking α} (precedes : earlier.Precedes later)
    (left : earlier.entry.time.IsInstant) (right : later.entry.time.IsInstant) :
    earlier.entry.time.rank ≤ later.entry.time.rank := by
  rcases precedes with less | ⟨same, -⟩
  · exact Int.le_of_lt ((left.lt_iff right).1 less)
  · rw [same]

/-- An event with the largest number is inserted at its place in the order of times and
numbers. -/
theorem exists_insert_booking {booking : Booking α} {waiting : List (Booking α)}
    (instant : booking.entry.time.IsInstant)
    (instants : ∀ other ∈ waiting, other.entry.time.IsInstant)
    (last : ∀ other ∈ waiting, other.number < booking.number)
    (ordered : waiting.Pairwise Booking.Precedes) :
    ∃ placed : List (Booking α),
      insert booking.entry (waiting.map Booking.entry) = placed.map Booking.entry ∧
        placed.Perm (booking :: waiting) ∧ placed.Pairwise Booking.Precedes := by
  induction waiting with
  | nil => exact ⟨[booking], rfl, List.Perm.refl _, List.pairwise_singleton _ _⟩
  | cons next rest induction =>
      obtain ⟨nextInstant, restInstants⟩ := List.forall_mem_cons.1 instants
      obtain ⟨nextNumber, restNumbers⟩ := List.forall_mem_cons.1 last
      obtain ⟨nextFirst, restOrdered⟩ := List.pairwise_cons.1 ordered
      by_cases sooner : booking.entry.time.rank < next.entry.time.rank
      · refine ⟨booking :: next :: rest, ?_, List.Perm.refl _, ?_⟩
        · simp [insert_cons, sooner]
        · apply List.pairwise_cons.2
          refine ⟨fun later member => .inl ((instant.lt_iff (instants later member)).2 ?_), ordered⟩
          rcases List.mem_cons.1 member with same | behind
          · rwa [same]
          · have notBefore := (nextFirst later behind).rank_le nextInstant
              (restInstants later behind)
            omega
      · obtain ⟨placed, listed, permuted, sorted⟩ :=
          induction restInstants restNumbers restOrdered
        refine ⟨next :: placed, ?_, ?_, ?_⟩
        · simp [insert_cons, sooner, listed]
        · exact (permuted.cons next).trans (List.Perm.swap booking next rest)
        · apply List.pairwise_cons.2
          refine ⟨fun later member => ?_, sorted⟩
          rcases List.mem_cons.1 (permuted.mem_iff.1 member) with same | behind
          · rw [same]
            exact Booking.precedes_of_rank nextInstant instant (Int.not_lt.1 sooner) nextNumber
          · exact nextFirst later behind

/-! ## Service -/

/-- The requests have taken the bookings in `served`, in this order, and have left those
in `waiting` in the queue. -/
structure Serves (requests : List (Request α)) (served waiting : List (Booking α)) : Prop where
  taken : empty.taken requests = served.map Booking.entry
  pending : (empty.after requests).pending = waiting.map Booking.entry
  next : (empty.after requests).pop?.map Prod.fst = waiting.head?.map Booking.entry
  once : (served ++ waiting).Perm (bookings requests)
  ordered : (served ++ waiting).Pairwise Booking.Precedes
  clock : (empty.after requests).now =
    (served.getLast?.map fun booking => booking.entry.time).getD 0
  past : ∀ booking ∈ served, booking.entry.time ≤ (empty.after requests).now
  upcoming : ∀ booking ∈ waiting, (empty.after requests).now ≤ booking.entry.time
  instants : ∀ booking ∈ served ++ waiting, booking.entry.time.IsInstant
  clockInstant : (empty.after requests).now.IsInstant

theorem next_of_pending {queue : EventQueue α} {waiting : List (Booking α)}
    (pending : queue.pending = waiting.map Booking.entry) :
    queue.pop?.map Prod.fst = waiting.head?.map Booking.entry := by
  obtain ⟨now, listed⟩ := queue
  cases waiting <;> cases pending <;> rfl

theorem serves_nil : Serves ([] : List (Request α)) [] [] where
  taken := rfl
  pending := rfl
  next := rfl
  once := List.Perm.refl _
  ordered := List.Pairwise.nil
  clock := rfl
  past := by simp
  upcoming := by simp
  instants := by simp
  clockInstant := isInstant_zero

theorem Serves.schedule {requests : List (Request α)} {served waiting : List (Booking α)}
    (serves : Serves requests served waiting) (target : Nat) (delay : Seconds) (event : α) :
    ∃ placed, Serves (requests ++ [.schedule target delay event]) served placed := by
  let queue : EventQueue α := empty.after requests
  let entry : Scheduled α :=
    { time := queue.dueTime delay, target := target, event := event }
  let booking : Booking α := ⟨(empty.booked requests).length, entry⟩
  have instant : booking.entry.time.IsInstant := dueTime_isInstant serves.clockInstant delay
  have afterwards : empty.after (requests ++ [.schedule target delay event]) =
      queue.schedule target delay event := after_concat _ _ _
  have numbers : ∀ other ∈ served ++ waiting, other.number < booking.number :=
    fun other member => number_lt_of_mem (serves.once.mem_iff.1 member)
  obtain ⟨servedInstants, waitingInstants⟩ := List.forall_mem_append.1 serves.instants
  obtain ⟨servedNumbers, waitingNumbers⟩ := List.forall_mem_append.1 numbers
  obtain ⟨servedOrdered, waitingOrdered, across⟩ := List.pairwise_append.1 serves.ordered
  obtain ⟨placed, listed, permuted, sorted⟩ :=
    exists_insert_booking instant waitingInstants waitingNumbers waitingOrdered
  have notBefore : queue.now.rank ≤ booking.entry.time.rank :=
    now_le_dueTime serves.clockInstant delay
  have pending : (queue.schedule target delay event).pending = placed.map Booking.entry := by
    rw [schedule_pending, serves.pending]
    exact listed
  have mem_placed {other : Booking α} : other ∈ placed ↔ other = booking ∨ other ∈ waiting :=
    permuted.mem_iff.trans List.mem_cons
  refine ⟨placed, ?_, ?_, ?_, ?_, ?_, ?_, ?_, ?_, ?_, ?_⟩
  · rw [taken_schedule]
    exact serves.taken
  · rw [afterwards]
    exact pending
  · rw [afterwards]
    exact next_of_pending pending
  · rw [bookings_schedule]
    calc
      (served ++ placed).Perm (served ++ booking :: waiting) := permuted.append_left served
      _ |>.Perm (booking :: (served ++ waiting)) := List.perm_middle
      _ |>.Perm (booking :: bookings requests) := serves.once.cons booking
      _ |>.Perm (bookings requests ++ [booking]) := (List.perm_append_singleton _ _).symm
  · apply List.pairwise_append.2
    refine ⟨servedOrdered, sorted, fun earlier first later second => ?_⟩
    rcases mem_placed.1 second with rfl | old
    · have before := ((servedInstants earlier first).le_iff serves.clockInstant).1
        (serves.past earlier first)
      exact Booking.precedes_of_rank (servedInstants earlier first) instant
        (Int.le_trans before notBefore) (servedNumbers earlier first)
    · exact across earlier first later old
  · rw [afterwards]
    exact serves.clock
  · rw [afterwards]
    exact serves.past
  · rw [afterwards]
    intro other member
    rcases mem_placed.1 member with rfl | old
    · exact (serves.clockInstant.le_iff instant).2 notBefore
    · exact serves.upcoming other old
  · refine List.forall_mem_append.2 ⟨servedInstants, fun other member => ?_⟩
    rcases mem_placed.1 member with rfl | old
    · exact instant
    · exact waitingInstants other old
  · rw [afterwards]
    exact serves.clockInstant

theorem Serves.pop {requests : List (Request α)} {served : List (Booking α)}
    {first : Booking α} {waiting : List (Booking α)}
    (serves : Serves requests served (first :: waiting)) :
    Serves (requests ++ [.pop]) (served ++ [first]) waiting := by
  have popped : (empty.after requests).pop? =
      some (first.entry, { now := first.entry.time, pending := waiting.map Booking.entry }) :=
    pop?_eq_some.2 ⟨serves.pending, rfl⟩
  have afterwards : empty.after (requests ++ [.pop]) =
      { now := first.entry.time, pending := waiting.map Booking.entry } := by
    rw [after_concat, perform, popped]
    rfl
  have regrouped : served ++ first :: waiting = (served ++ [first]) ++ waiting := by simp
  have once := serves.once
  have ordered := serves.ordered
  have instants := serves.instants
  rw [regrouped] at once ordered instants
  have instantOf {booking : Booking α} (member : booking ∈ served ++ [first]) :
      booking.entry.time.IsInstant := instants booking (List.mem_append_left _ member)
  have firstInstant : first.entry.time.IsInstant := instantOf (by simp)
  obtain ⟨earlierOrdered, -, across⟩ := List.pairwise_append.1 ordered
  refine ⟨?_, ?_, ?_, ?_, ordered, ?_, ?_, ?_, instants, ?_⟩
  · simp [taken_pop, popped, serves.taken]
  · rw [afterwards]
  · rw [afterwards]
    exact next_of_pending rfl
  · simpa [bookings, booked_pop] using once
  · simp [afterwards]
  · rw [afterwards]
    intro booking member
    rcases List.mem_append.1 member with old | new
    · have precedes := (List.pairwise_append.1 earlierOrdered).2.2 booking old first (by simp)
      exact ((instantOf member).le_iff firstInstant).2 (precedes.rank_le (instantOf member) firstInstant)
    · rw [List.mem_singleton.1 new]
      exact (firstInstant.le_iff firstInstant).2 (Int.le_refl _)
  · rw [afterwards]
    intro booking member
    have instant := instants booking (List.mem_append_right _ member)
    have precedes := across first (by simp) booking member
    exact (firstInstant.le_iff instant).2 (precedes.rank_le firstInstant instant)
  · rw [afterwards]
    exact firstInstant

theorem Serves.pop_of_empty {requests : List (Request α)} {served : List (Booking α)}
    (serves : Serves requests served []) : Serves (requests ++ [.pop]) served [] := by
  have nothing : (empty.after requests).pop? = none := pop?_eq_none.2 serves.pending
  have afterwards : empty.after (requests ++ [.pop]) = empty.after requests := by
    rw [after_concat, perform, nothing]
    rfl
  exact
    { taken := by simp [taken_pop, nothing, serves.taken]
      pending := afterwards ▸ serves.pending
      next := afterwards ▸ serves.next
      once := by simpa [bookings, booked_pop] using serves.once
      ordered := serves.ordered
      clock := afterwards ▸ serves.clock
      past := afterwards ▸ serves.past
      upcoming := by simp
      instants := serves.instants
      clockInstant := afterwards ▸ serves.clockInstant }

/-- A request takes at most one booking and leaves the others in order. -/
theorem Serves.step {requests : List (Request α)} {served waiting : List (Booking α)}
    (serves : Serves requests served waiting) (request : Request α) :
    ∃ newly remaining, Serves (requests ++ [request]) (served ++ newly) remaining := by
  cases request with
  | schedule target delay event =>
      obtain ⟨placed, serves⟩ := serves.schedule target delay event
      exact ⟨[], placed, by simpa using serves⟩
  | pop =>
      cases waiting with
      | nil => exact ⟨[], [], by simpa using serves.pop_of_empty⟩
      | cons first waiting => exact ⟨[first], waiting, serves.pop⟩

/-- Events are served in the order of their times and of their scheduling, at every
point of every sequence of requests. -/
theorem serves_in_order (requests : List (Request α)) :
    ∃ served : List (Booking α), ∀ early, early <+: requests →
      ∃ waiting, Serves early (served.take ((empty : EventQueue α).taken early).length) waiting := by
  induction requests using List.reverseRecOn with
  | nil =>
      refine ⟨[], fun early part => ⟨[], ?_⟩⟩
      rw [List.prefix_nil.1 part]
      exact serves_nil
  | append_singleton requests request induction =>
      obtain ⟨served, earlier⟩ := induction
      obtain ⟨waiting, serves⟩ := earlier requests (List.prefix_refl _)
      let taken := served.take ((empty : EventQueue α).taken requests).length
      have length : taken.length = ((empty : EventQueue α).taken requests).length := by
        rw [serves.taken, List.length_map]
      obtain ⟨newly, remaining, grown⟩ := serves.step request
      refine ⟨taken ++ newly, fun early part => ?_⟩
      rcases List.prefix_concat_iff.1 part with rfl | before
      · refine ⟨remaining, ?_⟩
        rw [grown.taken, List.length_map, List.take_length]
        exact grown
      · obtain ⟨left, served⟩ := earlier early before
        refine ⟨left, ?_⟩
        have shorter := taken_length_mono before
        rw [List.take_append_of_le_length (by omega), List.take_take, Nat.min_eq_left shorter]
        exact served

end CoSimulation.EventQueue
