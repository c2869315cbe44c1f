import CoSimulation.Proofs.Workload.Requests
import Mathlib.Data.List.TakeWhile

/-!
# What a workload counts as sent

Forwarding sends the batches of a list one after the other, up to the first one whose
destination was never placed.  What was sent before stays sent, but it is counted only if
all of it was.  So the count falls behind with every call that fails after it has sent
something, and with no other.
-/

namespace CoSimulation

/-- The vertex that a sent record is for. -/
def Record.dest? : Record → Option VertexId
  | sent _ _ dest _ => some dest
  | produced .. | processed .. | consumed .. | received .. => none

/-! ## The batches before a failure -/

namespace Network

variable (network : Network) (delay : Seconds)

/-- Whether a record does not keep forwarding from going on. -/
def passes (record : Record) : Bool :=
  record.dest?.all fun dest => (network.registry.resolve? dest).isSome

/-- The records up to the first whose destination was never placed. -/
def passing (records : List Record) : List Record := records.takeWhile network.passes

/-- The delivery that a sent record asks for, if its destination is placed. -/
def delivery? : Record → Option Dispatch
  | .sent time origin dest payload => (network.send delay time origin dest payload).toOption
  | .produced .. | .processed .. | .consumed .. | .received .. => none

/-- The deliveries that a list of records leads to. -/
def deliveries (records : List Record) : List Dispatch :=
  (network.passing records).filterMap (network.delivery? delay)

variable {network delay}

theorem deliveries_cons (record : Record) (records : List Record) :
    network.deliveries delay (record :: records) =
      if network.passes record then
        (network.delivery? delay record).toList ++ network.deliveries delay records
      else [] := by
  rw [deliveries, passing, List.takeWhile_cons]
  split
  · rw [List.filterMap_cons, deliveries, passing]
    cases network.delivery? delay record <;> rfl
  · rfl

variable (network delay) in
theorem sendAll_eq (records : List Record) :
    (network.sendAll delay records).1 = network.deliveries delay records ∧
      ((network.sendAll delay records).2 = none ↔ records.all network.passes = true) := by
  induction records with
  | nil => exact ⟨rfl, by simp [sendAll]⟩
  | cons record records induction =>
      obtain ⟨sent, through⟩ := induction
      rw [deliveries_cons, List.all_cons]
      cases record with
      | sent time origin dest payload =>
          rw [sendAll]
          cases resolved : network.registry.resolve? dest with
          | none => simp [send, passes, Record.dest?, resolved]
          | some location =>
              simp [send, delivery?, passes, Record.dest?, resolved, sent, through,
                Except.toOption]
      | produced | processed | consumed | received => exact ⟨sent, through⟩

/-- Every batch that passes is sent, so a list leads to as many deliveries. -/
theorem length_deliveries (records : List Record) :
    (network.deliveries delay records).length =
      (network.passing records).countP Record.isSent := by
  rw [deliveries, List.length_filterMap_eq_countP]
  apply List.countP_congr
  intro record member
  have passed := List.mem_takeWhile_imp member
  cases record with
  | sent time origin dest payload =>
      obtain ⟨location, resolved⟩ : ∃ location,
          network.registry.resolve? dest = some location := by
        simpa [passes, Record.dest?, Option.isSome_iff_exists] using passed
      simp [delivery?, send, resolved, Except.toOption, Record.isSent]
  | produced | processed | consumed | received => simp [delivery?, Record.isSent]

end Network

namespace Workload

/-! ## One call -/

/-- What the requests to a workload dispatch, in order. -/
def dispatched (workload : Workload) : List Request → List Dispatch
  | [] => []
  | .forward network records :: later =>
      (workload.forward network records).dispatches ++
        (workload.perform (.forward network records)).dispatched later
  | .receive message :: later => (workload.perform (.receive message)).dispatched later
  | .tick slice :: later => (workload.perform (.tick slice)).dispatched later

/-- The deliveries that a networked workload sends in a request. -/
def Request.outbound (delay : Seconds) : Request → List Dispatch
  | forward network records => network.deliveries delay records
  | receive _ | tick _ => []

/-- Some batches are sent before one whose destination was never placed. -/
def Request.Strands : Request → Prop
  | forward network records =>
      (∃ batch ∈ network.passing records, batch.isSent = true) ∧
        ∃ record ∈ records, network.passes record = false
  | receive _ | tick _ => False

/-- The deliveries among them that are not counted. -/
def Request.stranded (delay : Seconds) : Request → List Dispatch
  | forward network records =>
      if records.all network.passes then [] else network.deliveries delay records
  | receive _ | tick _ => []

theorem Request.stranded_eq_nil {delay : Seconds} {request : Request} :
    request.stranded delay = [] ↔ ¬ request.Strands := by
  cases request with
  | receive | tick => simp [stranded, Strands]
  | forward network records =>
      rw [stranded, Strands]
      split
      · rename_i through
        simp_all
      · rename_i stopped
        have refused : ∃ record ∈ records, network.passes record = false := by
          simpa using stopped
        rw [← List.length_eq_zero_iff, Network.length_deliveries, List.countP_eq_zero]
        simp [refused]

section Networked

variable {workload : Workload} {delay : Seconds}
  (networked : workload.transport = .networked delay)
include networked

theorem transport_perform (request : Request) :
    (workload.perform request).transport = .networked delay := by
  have same : (workload.perform request).terms = workload.terms := by
    cases request with
    | receive message => exact workload.terms_receive message
    | tick slice => exact workload.terms_tick slice
    | forward network records => exact workload.terms_forward network records
  exact (transport_eq_of_terms same).trans networked

/-- Forwarding either counts everything it has sent or nothing of it. -/
theorem forward_eq (network : Network) (records : List Record) :
    (workload.forward network records).dispatches = network.deliveries delay records ∧
      (workload.forward network records).state.counters.sent +
          ((Request.forward network records).stranded delay).length =
        workload.counters.sent + (network.deliveries delay records).length := by
  obtain ⟨sent, through⟩ := network.sendAll_eq delay records
  rw [forward, networked, Request.stranded]
  simp only
  split
  · rename_i dispatches fault outcome
    rw [outcome] at sent through
    have stopped : ¬ records.all network.passes = true := by simpa using through
    rw [if_neg stopped]
    exact ⟨sent, rfl⟩
  · rename_i dispatches outcome
    rw [outcome] at sent through
    rw [if_pos (through.1 rfl), ← sent]
    exact ⟨rfl, rfl⟩

theorem sent_perform (request : Request) :
    (workload.perform request).counters.sent + (request.stranded delay).length =
      workload.counters.sent + (request.outbound delay).length := by
  cases request with
  | forward network records => exact (forward_eq networked network records).2
  | receive message =>
      rw [perform, receive]
      split <;> rfl
  | tick slice =>
      have step := workload.performed (.tick slice)
      generalize workload.ranIn (.tick slice) = ran at step
      generalize workload.perform (.tick slice) = next at step ⊢
      cases step with
      | ran running =>
          have counted := congrArg WorkloadCounters.sent (workload.counted_run slice)
          exact counted
      | idle => rfl

end Networked

/-! ## Sequences of calls -/

theorem dispatched_eq {workload : Workload} {delay : Seconds}
    (networked : workload.transport = .networked delay) (requests : List Request) :
    workload.dispatched requests = requests.flatMap (Request.outbound delay) := by
  induction requests generalizing workload with
  | nil => rfl
  | cons request later induction =>
      have rest := induction (transport_perform networked request)
      cases request with
      | forward network records =>
          rw [dispatched, List.flatMap_cons, (forward_eq networked network records).1, rest]
          rfl
      | receive | tick =>
          rw [dispatched, List.flatMap_cons, rest]
          rfl

theorem sent_after {workload : Workload} {delay : Seconds}
    (networked : workload.transport = .networked delay) (requests : List Request) :
    (workload.after requests).counters.sent +
        (requests.flatMap (Request.stranded delay)).length =
      workload.counters.sent + (requests.flatMap (Request.outbound delay)).length := by
  induction requests generalizing workload with
  | nil => rfl
  | cons request later induction =>
      have first := sent_perform networked request
      have rest := induction (transport_perform networked request)
      rw [List.flatMap_cons, List.flatMap_cons, List.length_append, List.length_append]
      change ((workload.perform request).after later).counters.sent + _ = _
      omega

/-- Every delivery that a workload dispatches is for a batch that it was told to forward, and
of each list it sends the batches before the first whose destination was never placed.  It has
counted all of them exactly if no call has sent some batches and then failed; otherwise what
those calls have sent is missing. -/
theorem counts_sent_iff {workload : Workload} (new : workload.New) {delay : Seconds}
    (networked : workload.transport = .networked delay) (requests : List Request) :
    let dispatches := workload.dispatched requests
    dispatches = requests.flatMap (Request.outbound delay) ∧
      (∀ dispatch ∈ dispatches, ∃ message, dispatch.event = .deliver message) ∧
      (workload.after requests).counters.sent +
          (requests.flatMap (Request.stranded delay)).length = dispatches.length ∧
      ((workload.after requests).counters.sent = dispatches.length ↔
        ∀ request ∈ requests, ¬ request.Strands) := by
  intro dispatches
  have listed : dispatches = requests.flatMap (Request.outbound delay) :=
    dispatched_eq networked requests
  have counted : (workload.after requests).counters.sent +
      (requests.flatMap (Request.stranded delay)).length = dispatches.length := by
    rw [sent_after networked requests, new.counters, listed]
    exact Nat.zero_add _
  refine ⟨listed, fun dispatch member => ?_, counted, ?_⟩
  · rw [listed] at member
    obtain ⟨request, -, sent⟩ := List.mem_flatMap.1 member
    cases request with
    | receive | tick => cases sent
    | forward network records =>
        have all : dispatch ∈ (network.sendAll delay records).1 :=
          (network.sendAll_eq delay records).1 ▸ sent
        obtain ⟨message, -, carried, -⟩ := Network.sendAll_isDelivery records dispatch all
        exact ⟨message, carried⟩
  · calc
      (workload.after requests).counters.sent = dispatches.length
        ↔ requests.flatMap (Request.stranded delay) = [] := by
          rw [← List.length_eq_zero_iff]
          omega
      _ ↔ ∀ request ∈ requests, ¬ request.Strands := by
          simp only [List.flatMap_eq_nil_iff, Request.stranded_eq_nil]

/-- A host with one vertex. -/
def oneVertex : Network where
  registry :=
    { hostOfVertex := Table.empty.insert 1 1, datacenterOfHost := Table.empty.insert 1 1 }
  now := 0

def batchFor (dest : VertexId) : Record :=
  .sent 0 1 dest { size := 1, timestamp := 0, latency := 0, totals := Table.empty }

/-- A batch that arrives is followed by one for a vertex that nobody has placed. -/
theorem counts_sent_iff_torn :
    let workload := twoSeconds.withTransport (.networked 1)
    let requests : List Request := [.forward oneVertex [batchFor 1, batchFor 9]]
    workload.New ∧ (workload.dispatched requests).length = 1 ∧
      (workload.after requests).counters.sent = 0 ∧
      ¬ ∀ request ∈ requests, ¬ request.Strands := by
  intro workload requests
  have new : workload.New := new_twoSeconds.withTransport _
  have networked : workload.transport = .networked 1 := rfl
  obtain ⟨-, -, counted, law⟩ := counts_sent_iff new networked requests
  have missing : (requests.flatMap (Request.stranded 1)).length = 1 := by decide +kernel
  have none : (workload.after requests).counters.sent = 0 := by decide +kernel
  rw [missing, none] at counted
  refine ⟨new, counted.symm, none, fun settled => ?_⟩
  have equal := law.2 settled
  rw [none, ← counted] at equal
  cases equal

end Workload

end CoSimulation
