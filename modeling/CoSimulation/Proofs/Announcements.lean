import CoSimulation.Proofs.Simulation

/-!
# Submissions announce destinations

A message may be under way to a workload whose own submission is still to be
handled.  It finds its destination nevertheless: `Announced` says that the vertices
of every message in the queue are known where it goes, or become known by a
submission that is handled first.  A submission is due at once and a new event
stands behind those that are not due later, so dispatching keeps this.
-/

namespace CoSimulation

/-- Which vertices are known to which datacenters. -/
abbrev Knowledge := DatacenterId → VertexId → Prop

/-- The entry brings the datacenter a workload that executes the vertex. -/
def Promises (entry : Scheduled Event) : Knowledge := fun datacenter vertex =>
  entry.target = datacenter ∧ ∃ host workload, entry.event = .submit host workload ∧
    workload.placement.executes vertex = true

/-- One of the entries brings the datacenter a workload that executes the vertex. -/
def Promised (pending : List (Scheduled Event)) : Knowledge := fun datacenter vertex =>
  ∃ entry ∈ pending, Promises entry datacenter vertex

theorem Promised.dispatch {queue : EventQueue Event} {datacenter : DatacenterId}
    {vertex : VertexId} (promised : Promised queue.pending datacenter vertex)
    (dispatches : List Dispatch) :
    Promised (queue.dispatch dispatches).pending datacenter vertex := by
  obtain ⟨promising, waits, promise⟩ := promised
  exact ⟨promising, EventQueue.mem_dispatch.2 (.inr waits), promise⟩

/-- Every message is preceded by what makes its destination known. -/
def Announced : Knowledge → List (Scheduled Event) → Prop
  | _, [] => True
  | known, entry :: rest =>
      (∀ message, entry.event = .deliver message → known entry.target message.destVertex) ∧
        Announced (fun datacenter vertex =>
          known datacenter vertex ∨ Promises entry datacenter vertex) rest

theorem Announced.mono {known more : Knowledge} {pending : List (Scheduled Event)}
    (announced : Announced known pending)
    (learnt : ∀ datacenter vertex, known datacenter vertex → more datacenter vertex) :
    Announced more pending := by
  induction pending generalizing known more with
  | nil => trivial
  | cons entry rest induction =>
      refine ⟨fun message carried => learnt _ _ (announced.1 message carried), ?_⟩
      apply induction announced.2
      intro datacenter vertex either
      exact either.imp (learnt datacenter vertex) id

/-- A submission is due when it is dispatched. -/
def Prompt (time : Seconds) (pending : List (Scheduled Event)) : Prop :=
  ∀ entry ∈ pending, ∀ host workload, entry.event = .submit host workload →
    entry.time.rank ≤ time.rank

/-- A new entry stands behind the submissions that announce its destination. -/
theorem Announced.insert {known : Knowledge} {entry : Scheduled Event}
    {pending : List (Scheduled Event)} (announced : Announced known pending)
    (sorted : pending.Pairwise fun earlier later => earlier.time.rank ≤ later.time.rank)
    (prompt : Prompt entry.time pending)
    (backed : ∀ message, entry.event = .deliver message →
      known entry.target message.destVertex ∨
        Promised pending entry.target message.destVertex) :
    Announced known (EventQueue.insert entry pending) := by
  induction pending generalizing known with
  | nil =>
      refine ⟨fun message carried => ?_, trivial⟩
      rcases backed message carried with ready | ⟨promising, member, -⟩
      · exact ready
      · cases member
  | cons next rest induction =>
      obtain ⟨first, tail⟩ := List.pairwise_cons.1 sorted
      rw [EventQueue.insert]
      split
      · -- the entry is due before all others, so no submission is left in the list
        rename_i less
        have sooner := EventQueue.totalCompare_lt_iff.1 less
        refine ⟨fun message carried => ?_, announced.mono fun _ _ => .inl⟩
        rcases backed message carried with ready | ⟨promising, member, -, host, workload, brings, -⟩
        · exact ready
        · have late : next.time.rank ≤ promising.time.rank := by
            rcases List.mem_cons.1 member with same | later
            · rw [same]
            · exact first promising later
          have due := prompt promising member host workload brings
          omega
      · refine ⟨announced.1, induction announced.2 tail
          (fun other member => prompt other (List.mem_cons_of_mem _ member)) ?_⟩
        intro message carried
        rcases backed message carried with ready | ⟨promising, member, promise⟩
        · exact .inl (.inl ready)
        · rcases List.mem_cons.1 member with same | later
          · exact .inl (.inr (same ▸ promise))
          · exact .inr ⟨promising, later, promise⟩

/-- A dispatch that leads to a datacenter where its destination is known or promised,
and that does not put off a submission. -/
structure Dispatch.Backed (known : Knowledge) (queue : EventQueue Event)
    (dispatch : Dispatch) : Prop where
  message : ∀ message, dispatch.event = .deliver message →
    known dispatch.target message.destVertex ∨
      Promised queue.pending dispatch.target message.destVertex
  prompt : ∀ host workload, dispatch.event = .submit host workload → dispatch.delay = 0

theorem Announced.dispatch {known : Knowledge} {queue : EventQueue Event}
    {dispatches : List Dispatch} (announced : Announced known queue.pending)
    (ordered : queue.Ordered) (prompt : Prompt queue.now queue.pending)
    (backed : ∀ dispatch ∈ dispatches, dispatch.Backed known queue) :
    Announced known (queue.dispatch dispatches).pending ∧
      Prompt queue.now (queue.dispatch dispatches).pending := by
  induction dispatches generalizing queue with
  | nil => exact ⟨announced, prompt⟩
  | cons first rest induction =>
      have head := backed first List.mem_cons_self
      have late := EventQueue.now_le_dueTime ordered.clock first.delay
      rw [EventQueue.dispatch_cons]
      refine induction ?_ (ordered.schedule _ _ _) ?_ ?_
      · rw [EventQueue.schedule_pending]
        refine announced.insert ordered.sorted ?_ head.message
        intro entry member host workload brings
        exact Int.le_trans (prompt entry member host workload brings) late
      · intro entry member host workload brings
        rw [EventQueue.schedule_pending] at member
        rcases EventQueue.mem_insert.1 member with same | old
        · rw [same] at brings ⊢
          simp only [head.prompt host workload brings, EventQueue.dueTime_zero ordered.clock]
          exact Int.le_refl _
        · exact prompt entry old host workload brings
      · intro dispatch member
        have later := backed dispatch (List.mem_cons_of_mem _ member)
        refine ⟨fun message carried => ?_, later.prompt⟩
        rcases later.message message carried with ready | ⟨promising, waits, promise⟩
        · exact .inl ready
        · refine .inr ⟨promising, ?_, promise⟩
          rw [EventQueue.schedule_pending]
          exact EventQueue.mem_insert.2 (.inr waits)

end CoSimulation
