import CoSimulation.Time

/-!
# The future-event list

Events wait in the order of their times; events for the same time keep the order
in which they were scheduled.  Taking an event moves the clock to its time, and a
negative delay counts as none, so the clock never runs backwards.
-/

namespace CoSimulation

/-- An event, when it is due, and where it goes. -/
structure Scheduled (α : Type) where
  time : Seconds
  target : Nat
  event : α

structure EventQueue (α : Type) where
  now : Seconds
  /-- The events to come, next one first. -/
  pending : List (Scheduled α)

namespace EventQueue

variable {α : Type}

def empty : EventQueue α := { now := 0, pending := [] }

instance : Inhabited (EventQueue α) := ⟨empty⟩

/-- Puts an event behind all events that are not due later. -/
def insert (entry : Scheduled α) : List (Scheduled α) → List (Scheduled α)
  | [] => [entry]
  | next :: rest =>
      if entry.time.totalCompare next.time == .lt then entry :: next :: rest
      else next :: insert entry rest

/-- Schedules an event a delay from now. -/
def schedule (queue : EventQueue α) (target : Nat) (delay : Seconds) (event : α) :
    EventQueue α :=
  { queue with
    pending :=
      insert { time := queue.now + delay.max 0, target := target, event := event }
        queue.pending }

/-- Takes the next event and moves the clock to it. -/
def pop? (queue : EventQueue α) : Option (Scheduled α × EventQueue α) :=
  match queue.pending with
  | [] => none
  | next :: rest => some (next, { now := next.time, pending := rest })

def size (queue : EventQueue α) : Nat := queue.pending.length

def isEmpty (queue : EventQueue α) : Bool := queue.pending.isEmpty

/-- When the next event is due. -/
def nextTime? (queue : EventQueue α) : Option Seconds := queue.pending.head?.map Scheduled.time

end EventQueue

end CoSimulation
