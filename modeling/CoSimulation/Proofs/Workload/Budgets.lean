import CoSimulation.Proofs.Binary64.Counts
import CoSimulation.Proofs.Workload.Protocol
import Mathlib.Data.List.Forall2

/-!
# Budgets and offers

The budget of the last slice is computed on numbers, so it stays within the number that is
nearest to the offer, and that may be larger than the offer.  The engine is given no more
than was offered exactly if none of the offers grows on the way to a number and back; it is
never given more than one instruction in `2 ^ 53` on top.
-/

namespace CoSimulation

open Binary64

/-! ## The share of a slice -/

/-- Whatever the overrun and the length of the slice, also if they are not numbers. -/
theorem prorate_le (instructions : Nat) (overrun span : Seconds) :
    prorate instructions overrun span ≤ Nat.max instructions (roundTrip instructions) := by
  simp only [prorate]
  split
  · exact Nat.le_max_left _ _
  · apply Nat.le_trans (toCount_clamp_le _ (isInstant_ofNat instructions))
    exact Nat.le_max_right _ _

/-- Without an overrun the whole offer is taken, as a number. -/
theorem prorate_whole {instructions : Nat} (counts : instructions ≤ countLimit) :
    prorate instructions 0 1 = roundTrip instructions := by
  have long : ¬ (1 : Seconds) ≤ 0 := by decide +kernel
  have nothing : (0 : Seconds) / 1 = 0 := by decide +kernel
  have instant := isInstant_ofNat instructions
  simp only [prorate, if_neg long, zero_mul instant (isFinite_ofNat counts), nothing,
    sub_zero instant, clamp_of_le instant, roundTrip]

namespace Engine

def budget? : Call → Option Nat
  | .run instructions _ _ => some instructions
  | .init _ | .enqueue .. => none

/-- The instructions passed to each run, in order. -/
def budgets (engine : Engine) : List Nat := engine.calls.filterMap budget?

end Engine

theorem Block.budgets_trace (blocks : List Block) :
    (Block.trace blocks).filterMap Engine.budget? = blocks.map Block.budget := by
  have single (block : Block) : block.calls.filterMap Engine.budget? = [block.budget] := by
    have none : (block.handed.map Message.arrival).filterMap Engine.budget? = [] := by
      simp [Message.arrival, Engine.budget?]
    rw [Block.calls, List.filterMap_append, none]
    rfl
  have all (blocks : List Block) :
      (blocks.flatMap Block.calls).filterMap Engine.budget? = blocks.map Block.budget := by
    induction blocks with
    | nil => rfl
    | cons block later induction =>
        rw [List.flatMap_cons, List.filterMap_append, single, induction]
        rfl
  cases blocks with
  | nil => rfl
  | cons first later => exact all (first :: later)

namespace Workload

/-! ## Budgets in a sequence of requests -/

theorem budget_le (workload : Workload) (slice : Slice) :
    workload.budget slice ≤ Nat.max slice.instructions (roundTrip slice.instructions) := by
  simp only [budget]
  split
  · exact prorate_le _ _ _
  · exact Nat.le_max_left _ _

theorem budgets_after {workload : Workload} (new : workload.New) (requests : List Request) :
    (workload.after requests).engine.budgets =
      (workload.blocks requests).map Block.budget := by
  have traced := (new.traced.after requests).calls
  rw [List.nil_append] at traced
  rw [Engine.budgets, traced]
  exact Block.budgets_trace _

theorem blocks_budget (workload : Workload) (requests : List Request) :
    List.Forall₂ (fun slice budget =>
        budget ≤ Nat.max slice.instructions (roundTrip slice.instructions))
      (workload.ran requests) ((workload.blocks requests).map Block.budget) := by
  induction requests generalizing workload with
  | nil => exact .nil
  | cons request later induction =>
      rw [blocks, ran, List.map_append]
      apply List.rel_append _ (induction (workload.perform request))
      cases workload.ranIn request with
      | none => exact .nil
      | some slice => exact .cons (workload.budget_block slice ▸ workload.budget_le slice) .nil

/-- A request adds the budget of its block to one counter and its offer to the other. -/
theorem Performed.counted {workload next : Workload} {request : Request} {slice : Option Slice}
    (step : workload.Performed request slice next) :
    next.counters.executed = workload.counters.executed +
        ((slice.map workload.block).toList.map Block.budget).sum ∧
      next.counters.offered = workload.counters.offered +
        (slice.toList.map Slice.instructions).sum := by
  cases step with
  | @ran slice running monotone =>
      have spent : (((some slice).map workload.block).toList.map Block.budget).sum =
          workload.budget slice := by
        rw [← budget_block]
        exact List.sum_singleton
      rw [spent, (workload.budget_run slice).2]
      exact ⟨rfl, congrArg WorkloadCounters.offered (workload.counted_run slice)⟩
  | idle | queued | dropped | forwarded => exact ⟨rfl, rfl⟩

theorem counted_after (workload : Workload) (requests : List Request) :
    (workload.after requests).counters.executed =
        workload.counters.executed + ((workload.blocks requests).map Block.budget).sum ∧
      (workload.after requests).counters.offered =
        workload.counters.offered + ((workload.ran requests).map Slice.instructions).sum := by
  induction requests generalizing workload with
  | nil => exact ⟨rfl, rfl⟩
  | cons request later induction =>
      obtain ⟨executed, offered⟩ := induction (workload.perform request)
      obtain ⟨first, offer⟩ := (workload.performed request).counted
      rw [blocks, ran, List.map_append, List.map_append, List.sum_append, List.sum_append,
        ← Nat.add_assoc, ← Nat.add_assoc, ← first, ← offer]
      exact ⟨executed, offered⟩

/-! ## Offers that grow -/

/-- What the slices that a workload runs over offer together. -/
def offers (workload : Workload) (requests : List Request) : Nat :=
  ((workload.ran requests).map Slice.instructions).sum

/-- No run is given more than its slice offers, and so not all of them together, as long as
64 bits can count what is offered. -/
structure Frugal (workload : Workload) (requests : List Request) : Prop where
  runs : List.Forall₂ (fun slice budget => budget ≤ slice.instructions)
    (workload.ran requests) (workload.after requests).engine.budgets
  total : workload.offers requests ≤ countLimit →
    (workload.after requests).counters.executed ≤ (workload.after requests).counters.offered ∧
      (workload.after requests).counters.offered ≤ countLimit

/-- The workload runs over slices between finite times, which make such offers. -/
def Offered (offers : Nat → Prop) (workload : Workload) (requests : List Request) : Prop :=
  ∀ slice ∈ workload.ran requests,
    offers slice.instructions ∧ slice.current.isFinite = true ∧ slice.previous.isFinite = true

theorem frugal_of_runs {workload : Workload} (new : workload.New) {requests : List Request}
    (runs : List.Forall₂ (fun slice budget => budget ≤ slice.instructions)
      (workload.ran requests) (workload.after requests).engine.budgets) :
    workload.Frugal requests := by
  have sums {slices : List Slice} {budgets : List Nat}
      (within : List.Forall₂ (fun slice budget => budget ≤ slice.instructions) slices budgets) :
      budgets.sum ≤ (slices.map Slice.instructions).sum := by
    induction within with
    | nil => exact Nat.le_refl _
    | cons first _ induction => simpa using Nat.add_le_add first induction
  obtain ⟨executed, offered⟩ := workload.counted_after requests
  rw [new.counters, Nat.zero_add, ← budgets_after new] at executed
  rw [new.counters, Nat.zero_add] at offered
  refine ⟨runs, fun counted => ?_⟩
  rw [executed, offered]
  exact ⟨sums runs, counted⟩

/-- A workload of one second. -/
def oneSecond : Workload :=
  create 7 (.unpinned [5] 1) (.fresh 1 (Engine.relay []))

/-- The second in which it finishes. -/
def wholeSecond (instructions : Nat) : Slice :=
  { instructions := instructions, current := 1, previous := 0, capacity := 1 }

theorem budget_wholeSecond {instructions : Nat} (counts : instructions ≤ countLimit) :
    oneSecond.budget (wholeSecond instructions) = roundTrip instructions := by
  have ends : oneSecond.reachesEnd (0 + (1 - 0)) = true := by decide +kernel
  have overrun : (0 + (1 - 0) : Seconds) - oneSecond.duration = 0 := by decide +kernel
  have span : (1 : Seconds) - 0 = 1 := by decide +kernel
  have start : oneSecond.elapsed.getD 0 = 0 := rfl
  simp only [budget, wholeSecond, start, ends, if_true, overrun]
  rw [span, prorate_whole counts]

theorem ran_wholeSecond (instructions : Nat) :
    oneSecond.ran [.tick (wholeSecond instructions)] = [wholeSecond instructions] ∧
      oneSecond.blocks [.tick (wholeSecond instructions)] =
        [oneSecond.block (wholeSecond instructions)] := by
  have running : oneSecond.finished = false := rfl
  have forward : ¬ (wholeSecond instructions).current < (wholeSecond instructions).previous := by
    have times : ¬ (1 : Seconds) < 0 := by decide +kernel
    exact times
  have runs : oneSecond.ranIn (.tick (wholeSecond instructions)) =
      some (wholeSecond instructions) := by
    simp [ranIn, running, tick_of_running running forward, Except.isOk, Except.toBool]
  simp [ran, blocks, runs]

/-- A budget exceeds the offer by at most one part in `2 ^ 53`.  None exceeds it, whatever is
asked of whichever workload, exactly if none of the offers grows as it becomes a number. -/
theorem frugal_iff {offers : Nat → Prop} (counts : ∀ n, offers n → n ≤ countLimit) :
    (∀ workload : Workload, workload.New → ∀ requests,
      List.Forall₂ (fun slice budget =>
          budget ≤ slice.instructions + slice.instructions / 2 ^ 53)
        (workload.ran requests) (workload.after requests).engine.budgets) ∧
    ((∀ workload : Workload, workload.New → ∀ requests, workload.Offered offers requests →
        workload.Frugal requests) ↔
      ∀ n, offers n → roundTrip n ≤ n) := by
  refine ⟨fun workload new requests => ?_, fun law n offered => ?_,
    fun settled workload new requests offered => ?_⟩
  · rw [budgets_after new]
    apply (workload.blocks_budget requests).imp
    intro slice budget within
    exact Nat.le_trans within (Nat.max_le.2 ⟨Nat.le_add_right _ _, roundTrip_le _⟩)
  · obtain ⟨ran, asked⟩ := ran_wholeSecond n
    have new : oneSecond.New := new_create 7 _ rfl
    have within : oneSecond.Offered offers [.tick (wholeSecond n)] := by
      intro slice member
      rw [ran, List.mem_singleton] at member
      subst member
      have finite : (1 : Seconds).isFinite = true ∧ (0 : Seconds).isFinite = true := by
        decide +kernel
      exact ⟨offered, finite⟩
    have runs := (law oneSecond new _ within).runs
    rw [budgets_after new, asked, ran, List.map_singleton, budget_block,
      budget_wholeSecond (counts n offered), List.forall₂_cons] at runs
    exact runs.1
  · apply frugal_of_runs new
    have kept : ∀ slice ∈ workload.ran requests,
        roundTrip slice.instructions ≤ slice.instructions :=
      fun slice member => settled _ (offered slice member).1
    rw [budgets_after new]
    refine ((List.forall₂_and_left _ _).2 ⟨kept, workload.blocks_budget requests⟩).imp ?_
    rintro slice budget ⟨bounded, within⟩
    exact Nat.le_trans within (Nat.max_le.2 ⟨Nat.le_refl _, bounded⟩)

/-- Some 64-bit offers do grow: the engine is given one instruction more than this one. -/
theorem frugal_iff_grown :
    (oneSecond.after [.tick (wholeSecond 9007199254740995)]).engine.budgets =
        [9007199254740996] ∧
      ¬ ∀ workload : Workload, workload.New → ∀ requests,
        workload.Offered (· ≤ countLimit) requests → workload.Frugal requests := by
  have counts : 9007199254740995 ≤ countLimit := by decide +kernel
  have grows : roundTrip 9007199254740995 = 9007199254740996 := by decide +kernel
  constructor
  · decide +kernel
  · intro law
    have settled := (frugal_iff fun _ offered => offered).2.1 law 9007199254740995 counts
    rw [grows] at settled
    exact absurd settled (by decide)

end Workload

end CoSimulation
