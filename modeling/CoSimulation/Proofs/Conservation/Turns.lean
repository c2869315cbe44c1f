import CoSimulation.Proofs.Heap
import CoSimulation.Proofs.Workload
import Mathlib.Algebra.Order.Group.Multiset
import Mathlib.Algebra.BigOperators.Group.List.Basic
import Mathlib.Tactic.Abel

/-!
# What workloads send and receive

A batch that an engine reports as sent becomes a call on another engine: the network
delays it, and everything else about it stays the same.  `outgoing` are the calls that a
workload's batches are to become and `incoming` the messages and calls that have reached
it.  A turn dispatches exactly what it adds to the outgoing calls and neither adds nor
loses incoming ones; receiving a message adds it to the incoming calls, or drops it.
-/

namespace CoSimulation

/-! ## Batches on their way -/

/-- The call that a record becomes at its destination, if it is a batch sent. -/
def Record.arrival? (delay : Seconds) : Record → Option Call
  | sent time origin dest payload =>
      some (.enqueue (toEngineTime (ofEngineTime time + delay)) origin dest payload)
  | produced .. | processed .. | consumed .. | received .. => none

/-- The call that hands a message over. -/
def Message.arrival (message : Message) : Call :=
  .enqueue (toEngineTime message.destTime) message.originVertex message.destVertex
    message.payload

/-- The call that an event is to become, if it is a message. -/
def Event.carried : Event → Multiset Call
  | deliver message => {message.arrival}
  | submit .. | housekeeping => 0

/-- The sum of a quantity over what is dispatched. -/
def gainOf {M : Type} [AddCommMonoid M] (gain : Event → M) (dispatches : List Dispatch) : M :=
  (dispatches.map fun dispatch => gain dispatch.event).sum

theorem Network.sendAll_carried {network : Network} {delay : Seconds} {records : List Record}
    (sent : (network.sendAll delay records).2 = none) :
    gainOf Event.carried (network.sendAll delay records).1 =
        (records.filterMap (Record.arrival? delay) : List Call) ∧
      (network.sendAll delay records).1.length =
        (records.filterMap (Record.arrival? delay)).length := by
  induction records with
  | nil => exact ⟨rfl, rfl⟩
  | cons record records induction =>
      cases record with
      | sent time origin dest payload =>
          rw [sendAll] at sent ⊢
          split at sent
          · cases sent
          · rename_i first through
            obtain ⟨carried, counted⟩ := induction sent
            have arrives : first.event.carried =
                {Call.enqueue (toEngineTime (ofEngineTime time + delay)) origin dest
                  payload} := by
              rw [send] at through
              split at through
              · cases through
              · cases through
                rfl
            simp only [gainOf, List.map_cons, List.sum_cons, arrives] at carried ⊢
            rw [carried]
            exact ⟨rfl, congrArg (· + 1) counted⟩
      | produced | processed | consumed | received => exact induction sent

/-! ## Engines -/

namespace Engine

/-- Everything that runs have reported, given all calls, latest first. -/
def reportedIn (respond : List Call → List Record) : List Call → List Record
  | [] => []
  | call :: earlier =>
      reportedIn respond earlier ++ if call.isRun then respond (call :: earlier) else []

def reported (engine : Engine) : List Record := reportedIn engine.respond engine.past

def received (engine : Engine) : Multiset Call := (engine.past.filter Call.isEnqueue : List Call)

@[simp] theorem reported_init (engine : Engine) (start : Milliseconds) :
    (engine.init start).reported = engine.reported := List.append_nil _

@[simp] theorem reported_handOver (engine : Engine) (message : Message) :
    (Workload.handOver engine message).reported = engine.reported := List.append_nil _

@[simp] theorem received_handOver (engine : Engine) (message : Message) :
    (Workload.handOver engine message).received = {message.arrival} + engine.received := rfl

theorem reported_handOverAll (messages : List Message) (engine : Engine) :
    (messages.foldl Workload.handOver engine).reported = engine.reported := by
  induction messages generalizing engine with
  | nil => rfl
  | cons message messages induction =>
      rw [List.foldl_cons, induction, reported_handOver]

theorem received_handOverAll (messages : List Message) (engine : Engine) :
    (messages.foldl Workload.handOver engine).received =
      (messages.map Message.arrival : List Call) + engine.received := by
  induction messages generalizing engine with
  | nil => exact (zero_add _).symm
  | cons message messages induction =>
      rw [List.foldl_cons, induction, received_handOver, List.map_cons, ← Multiset.cons_coe,
        ← Multiset.singleton_add]
      abel

end Engine

/-! ## Workloads -/

namespace Workload

/-- The calls that the batches sent so far are to become. -/
def outgoing (delay : Seconds) (workload : Workload) : Multiset Call :=
  (workload.engine.reported.filterMap (Record.arrival? delay) : List Call)

/-- The messages that wait, as the calls that will hand them over. -/
def waiting (workload : Workload) : Multiset Call :=
  (workload.pending.toList.map Message.arrival : List Call)

/-- The calls that wait or were made. -/
def incoming (workload : Workload) : Multiset Call :=
  workload.waiting + workload.engine.received

/-- The counters of a workload tell how many batches it has sent and received, and all of
those received are for vertices that it executes. -/
structure Balanced (delay : Seconds) (workload : Workload) : Prop where
  transport : workload.transport = .networked delay
  enqueued : workload.counters.enqueued = workload.incoming.card
  drained : workload.counters.drained = workload.engine.received.card
  sent : workload.counters.sent = (workload.outgoing delay).card
  home : ∀ time origin dest payload, Call.enqueue time origin dest payload ∈ workload.incoming →
    workload.placement.executes dest = true

theorem card_waiting (workload : Workload) : workload.waiting.card = workload.pending.size := by
  rw [waiting, Multiset.coe_card, List.length_map, Heap.size_eq_length]

def dueBefore (workload : Workload) (previous : Seconds) : List Message :=
  (workload.pending.drainWhile Message.precedes (isDue previous)).1

section Run

variable (workload : Workload) (delay : Seconds)

theorem elapse_engine (current previous : Seconds) :
    (workload.elapse current previous).engine.reported = workload.engine.reported ∧
      (workload.elapse current previous).engine.received = workload.engine.received ∧
      (workload.elapse current previous).pending = workload.pending ∧
      (workload.elapse current previous).counters = workload.counters := by
  rw [elapse]
  split
  · exact ⟨rfl, rfl, rfl, rfl⟩
  · exact ⟨Engine.reported_init _ _, rfl, rfl, rfl⟩

theorem received_drain (previous : Seconds) :
    (workload.drain previous).engine.received =
      ((workload.dueBefore previous).map Message.arrival : List Call) +
        workload.engine.received :=
  Engine.received_handOverAll _ _

/-- Draining turns messages that wait into calls. -/
theorem incoming_drain (previous : Seconds) :
    (workload.drain previous).incoming = workload.incoming := by
  have split : workload.pending.toList.Perm
      (workload.dueBefore previous ++ (workload.drain previous).pending.toList) :=
    Heap.drainWhile_perm workload.pending
  have moved : workload.waiting =
      ((workload.dueBefore previous).map Message.arrival : List Call) +
        (workload.drain previous).waiting := by
    rw [waiting, Multiset.coe_eq_coe.2 (split.map Message.arrival), List.map_append,
      ← Multiset.coe_add, waiting]
  rw [incoming, received_drain, incoming, moved]
  abel

variable {workload delay}

theorem Balanced.elapse (balanced : workload.Balanced delay) (current previous : Seconds) :
    (workload.elapse current previous).Balanced delay := by
  obtain ⟨reported, received, pending, counters⟩ := workload.elapse_engine current previous
  have terms := workload.terms_elapse current previous
  have incoming : (workload.elapse current previous).incoming = workload.incoming := by
    rw [Workload.incoming, waiting, pending, received]
    rfl
  exact
    { transport := (transport_eq_of_terms terms).trans balanced.transport
      enqueued := by rw [counters, incoming, balanced.enqueued]
      drained := by rw [counters, received, balanced.drained]
      sent := by
        rw [counters, outgoing, reported]
        exact balanced.sent
      home := by
        rw [incoming, placement_eq_of_terms terms]
        exact balanced.home }

theorem Balanced.drain (balanced : workload.Balanced delay) (previous : Seconds) :
    (workload.drain previous).Balanced delay where
  transport := balanced.transport
  enqueued := by
    rw [incoming_drain]
    exact balanced.enqueued
  drained := by
    rw [received_drain, Multiset.card_add, ← balanced.drained, Multiset.coe_card,
      List.length_map]
    exact Nat.add_comm _ _
  sent := by
    have reported : (workload.drain previous).engine.reported = workload.engine.reported :=
      Engine.reported_handOverAll _ _
    rw [outgoing, reported]
    exact balanced.sent
  home := by
    rw [incoming_drain]
    exact balanced.home

end Run

/-! ## Turns -/

section Turn

variable (workload : Workload) (delay : Seconds) (slice : Slice)

theorem incoming_run : (workload.run slice).2.incoming = workload.incoming := by
  obtain ⟨-, received, pending, -⟩ := workload.elapse_engine slice.current slice.previous
  calc
    (workload.run slice).2.incoming =
        ((workload.elapse slice.current slice.previous).drain slice.previous).incoming := rfl
    _ = (workload.elapse slice.current slice.previous).incoming := incoming_drain _ _
    _ = workload.incoming := by
      rw [incoming, waiting, pending, received]
      rfl

theorem outgoing_run :
    (workload.run slice).2.outgoing delay =
      workload.outgoing delay +
        ((workload.run slice).1.filterMap (Record.arrival? delay) : List Call) := by
  obtain ⟨reported, -⟩ := workload.elapse_engine slice.current slice.previous
  have before : ((workload.elapse slice.current slice.previous).drain
      slice.previous).engine.reported = workload.engine.reported :=
    (Engine.reported_handOverAll _ _).trans reported
  have extended : (workload.run slice).2.engine.reported =
      workload.engine.reported ++ (workload.run slice).1 := by
    rw [← before]
    rfl
  rw [outgoing, extended, List.filterMap_append, ← Multiset.coe_add]
  rfl

theorem counters_run :
    (workload.run slice).2.counters.enqueued = workload.counters.enqueued ∧
      (workload.run slice).2.counters.dropped = workload.counters.dropped ∧
      (workload.run slice).2.counters.sent = workload.counters.sent := by
  obtain ⟨-, -, -, counters⟩ := workload.elapse_engine slice.current slice.previous
  have enqueued := congrArg WorkloadCounters.enqueued counters
  have dropped := congrArg WorkloadCounters.dropped counters
  have sent := congrArg WorkloadCounters.sent counters
  exact ⟨enqueued, dropped, sent⟩

end Turn

/-- Forwarding over a network either sends everything and counts it, or fails. -/
theorem forward_networked {workload : Workload} {network : Network} {delay : Seconds}
    {records : List Record} (networked : workload.transport = .networked delay) :
    (∃ fault, (workload.forward network records).result = .error fault) ∨
      (network.sendAll delay records).2 = none ∧
        workload.forward network records =
          { state :=
              { workload with
                counters :=
                  { workload.counters with
                    sent :=
                      workload.counters.sent + (network.sendAll delay records).1.length } }
            dispatches := (network.sendAll delay records).1
            result := .ok (network.sendAll delay records).1.length } := by
  rw [forward, networked]
  simp only
  split
  · rename_i dispatches fault sent
    exact .inl ⟨fault, rfl⟩
  · rename_i dispatches sent
    rw [sent]
    exact .inr ⟨rfl, rfl⟩

/-- After a slice only the batches are still to be counted that its records send. -/
structure Unsent (delay : Seconds) (workload : Workload) (ran : List Record × Workload) :
    Prop where
  transport : ran.2.transport = .networked delay
  enqueued : ran.2.counters.enqueued = ran.2.incoming.card
  drained : ran.2.counters.drained = ran.2.engine.received.card
  sent : ran.2.counters.sent + (ran.1.filterMap (Record.arrival? delay)).length =
    (ran.2.outgoing delay).card
  home : ∀ time origin dest payload, Call.enqueue time origin dest payload ∈ ran.2.incoming →
    ran.2.placement.executes dest = true
  outgoing : ran.2.outgoing delay =
    workload.outgoing delay + (ran.1.filterMap (Record.arrival? delay) : List Call)
  incoming : ran.2.incoming = workload.incoming
  dropped : ran.2.counters.dropped = workload.counters.dropped

theorem Balanced.run {workload : Workload} {delay : Seconds}
    (balanced : workload.Balanced delay) (slice : Slice) :
    Unsent delay workload (workload.run slice) := by
  have ready := (balanced.elapse slice.current slice.previous).drain slice.previous
  obtain ⟨enqueued, dropped, sent⟩ := workload.counters_run slice
  have incoming := workload.incoming_run slice
  have outgoing := workload.outgoing_run delay slice
  constructor
  · exact ready.transport
  · rw [enqueued, incoming, balanced.enqueued]
  · exact ready.drained
  · rw [sent, outgoing, balanced.sent, Multiset.card_add, Multiset.coe_card]
  · exact ready.home
  · exact outgoing
  · exact incoming
  · exact dropped

/-- A turn that does not fail dispatches what it adds to the outgoing calls, and leaves
the incoming ones and the losses as they are. -/
structure Passes (delay : Seconds) (workload : Workload) (turn : Turn) : Prop where
  balanced : turn.workload.Balanced delay
  outgoing : turn.workload.outgoing delay =
    workload.outgoing delay + gainOf Event.carried turn.dispatches
  incoming : turn.workload.incoming = workload.incoming
  dropped : turn.workload.counters.dropped = workload.counters.dropped

theorem Unsent.passes {workload : Workload} {delay : Seconds}
    {ran : List Record × Workload} (unsent : Unsent delay workload ran) {network : Network}
    {turn : Turn} (state : turn.workload = (ran.2.forward network ran.1).state)
    (dispatches : turn.dispatches = (ran.2.forward network ran.1).dispatches)
    (succeeds : ∀ fault, (ran.2.forward network ran.1).result ≠ .error fault) :
    Passes delay workload turn := by
  rcases forward_networked unsent.transport with ⟨fault, failed⟩ | ⟨through, forwarded⟩
  · exact absurd failed (succeeds fault)
  · obtain ⟨carried, counted⟩ := Network.sendAll_carried through
    rw [forwarded] at state dispatches
    constructor
    · rw [state]
      constructor
      · exact unsent.transport
      · exact unsent.enqueued
      · exact unsent.drained
      · exact (congrArg (ran.2.counters.sent + ·) counted).trans unsent.sent
      · exact unsent.home
    · rw [state, dispatches, carried]
      exact unsent.outgoing
    · rw [state]
      exact unsent.incoming
    · rw [state]
      exact unsent.dropped

theorem Balanced.turn {workload : Workload} {delay : Seconds}
    (balanced : workload.Balanced delay) {network : Network} {time previous : Seconds}
    {capacity : Binary64} (running : workload.finished = false)
    (monotone : ¬ time < previous)
    (succeeds : (workload.turn network time previous capacity).fault = none) :
    Passes delay workload (workload.turn network time previous capacity) := by
  have taken : workload.turn network time previous capacity = _ :=
    turn_of_running running monotone
  have unsent := balanced.run (workload.sliceOf time previous capacity)
  rw [taken] at succeeds ⊢
  apply unsent.passes rfl rfl
  intro fault failed
  simp only [failed] at succeeds
  cases succeeds

/-- Receiving a message adds it to the incoming calls or to the losses. -/
theorem Balanced.receive {workload : Workload} {delay : Seconds}
    (balanced : workload.Balanced delay) {message : Message}
    (home : workload.placement.executes message.destVertex = true) :
    (workload.receive message).Balanced delay ∧
      (workload.receive message).outgoing delay = workload.outgoing delay ∧
      ∃ lost : Multiset Call,
        (workload.receive message).incoming + lost = workload.incoming + {message.arrival} ∧
        (workload.receive message).counters.dropped =
          workload.counters.dropped + lost.card := by
  rw [Workload.receive]
  split
  · exact ⟨⟨balanced.transport, balanced.enqueued, balanced.drained, balanced.sent,
      balanced.home⟩, rfl, {message.arrival}, rfl, rfl⟩
  · have queued : ((workload.pending.push Message.precedes message).toList.map
        Message.arrival : Multiset Call) = {message.arrival} + workload.waiting := by
      rw [Multiset.coe_eq_coe.2 ((Heap.push_perm message workload.pending).map _), List.map_cons,
        ← Multiset.cons_coe, ← Multiset.singleton_add, waiting]
    have more : (({ workload with
        counters := { workload.counters with enqueued := workload.counters.enqueued + 1 }
        pending := workload.pending.push Message.precedes message } : Workload).incoming) =
          workload.incoming + {message.arrival} := by
      rw [incoming, waiting, queued, incoming]
      abel
    refine ⟨⟨balanced.transport, ?_, balanced.drained, balanced.sent, ?_⟩, rfl, 0, ?_, rfl⟩
    · rw [more, Multiset.card_add, ← balanced.enqueued]
      rfl
    · rw [more]
      intro time origin dest payload member
      rcases Multiset.mem_add.1 member with old | new
      · exact balanced.home time origin dest payload old
      · cases Multiset.mem_singleton.1 new
        exact home
    · rw [add_zero, more]

end Workload

end CoSimulation
