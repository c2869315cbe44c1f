import CoSimulation.Proofs.Binary64.Nearest

/-!
# Waiting for a sum

An instant that is a delay after now can be waited for: the wait is the difference, which is
rounded, and so is the time at which it ends, but that time is not after the instant.  For an
instant that is no such sum this fails, and the wait may end one step late.
-/

namespace CoSimulation.Binary64

/-! ## Half a step from either side -/

/-- What is rounded up to a magnitude is at least half a step above the one before, and more
if the magnitude is odd. -/
theorem half_step {count lower : Nat} (reached : lower + 1 ≤ nearestMagnitude count 1) :
    unitsOf (lower + 1) + unitsOf lower + (lower + 1) % 2 ≤ 2 * count := by
  simpa using half_step_up Nat.one_pos (Nat.le_trans reached (Nat.min_le_left _ _))

/-- The nearest magnitude is not farther away than one below the count. -/
theorem unitsOf_nearestMagnitude_add_le {count lower : Nat} (below : unitsOf lower ≤ count) :
    unitsOf (nearestMagnitude count 1) + unitsOf lower ≤ 2 * count := by
  rcases Nat.lt_or_ge lower (nearestMagnitude count 1) with above | within
  · obtain ⟨previous, equal⟩ := Nat.exists_eq_add_of_le' (Nat.le_trans (Nat.le_add_left 1 _) above)
    have step := half_step (Nat.le_of_eq equal.symm)
    have between : unitsOf lower ≤ unitsOf previous := unitsOf_mono (by omega)
    rw [equal]
    omega
  · have within := unitsOf_mono within
    omega

/-- What is as far above a magnitude as a count that is rounded up to it is rounded down. -/
theorem nearestMagnitude_reflect_le {count magnitude : Nat}
    (rounded : nearestMagnitude count 1 = magnitude) (below : count ≤ unitsOf magnitude) :
    nearestMagnitude (2 * unitsOf magnitude - count) 1 ≤ magnitude := by
  by_contra beyond
  have above := half_step (Nat.lt_of_not_le beyond)
  cases magnitude with
  | zero =>
      have none : unitsOf 0 = 0 := rfl
      have one : unitsOf 1 = 1 := rfl
      omega
  | succ lower =>
      -- one of two neighbours is odd, so both halves together exceed the steps
      have step := half_step (Nat.le_of_eq rounded.symm)
      have steps := unitsOf_step_mono (Nat.le_add_right lower 1)
      have less := unitsOf_lt_succ lower
      omega

/-- The magnitudes of a start, a delay, and the times when the delay ends and when the wait
for that ends. -/
theorem nearestMagnitude_wait_le {start delay due : Nat} (startBounded : start ≤ infinityMagnitude)
    (delayBounded : delay ≤ infinityMagnitude)
    (ends : nearestMagnitude (unitsOf start + unitsOf delay) 1 = due) :
    nearestMagnitude (unitsOf start +
      unitsOf (nearestMagnitude (unitsOf due - unitsOf start) 1)) 1 ≤ due := by
  have after : start ≤ due := by
    calc
      start = nearestMagnitude (unitsOf start) 1 := (nearestMagnitude_unitsOf startBounded).symm
      _ ≤ nearestMagnitude (unitsOf start + unitsOf delay) 1 :=
        nearestMagnitude_mono (Nat.le_add_right _ _)
      _ = due := ends
  have forward := unitsOf_mono after
  rcases Nat.lt_or_ge (unitsOf delay) (unitsOf due - unitsOf start) with early | late
  · -- the sum was rounded up, and the wait reaches no farther beyond `due` than that
    have wait := unitsOf_nearestMagnitude_add_le (Nat.le_of_lt early)
    have below : unitsOf start + unitsOf delay ≤ unitsOf due := by omega
    calc
      nearestMagnitude (unitsOf start +
          unitsOf (nearestMagnitude (unitsOf due - unitsOf start) 1)) 1
        ≤ nearestMagnitude (2 * unitsOf due - (unitsOf start + unitsOf delay)) 1 :=
          nearestMagnitude_mono (by omega)
      _ ≤ due := nearestMagnitude_reflect_le ends below
  · have wait : nearestMagnitude (unitsOf due - unitsOf start) 1 ≤ delay := by
      calc
        nearestMagnitude (unitsOf due - unitsOf start) 1 ≤ nearestMagnitude (unitsOf delay) 1 :=
          nearestMagnitude_mono late
        _ = delay := nearestMagnitude_unitsOf delayBounded
    calc
      nearestMagnitude (unitsOf start +
          unitsOf (nearestMagnitude (unitsOf due - unitsOf start) 1)) 1
        ≤ nearestMagnitude (unitsOf start + unitsOf delay) 1 :=
          nearestMagnitude_mono (Nat.add_le_add_left (unitsOf_mono wait) _)
      _ = due := ends

/-! ## The wait -/

section Wait

variable {x y delay : Binary64} (instant : x.IsInstant) (nonneg : 0 ≤ y)
include instant nonneg

theorem wait_le (finite : (x + y).magnitude ≠ infinityMagnitude) :
    (x + y - x).IsInstant ∧ (x + (x + y - x)).rank ≤ (x + y).rank := by
  have later := instant.add nonneg
  have forward := instant.magnitude_le later (rank_le_add instant nonneg)
  have bounded := later.numeric
  have delayBounded := (nonneg_iff.1 nonneg).1
  have ends : nearestMagnitude (unitsOf x.magnitude + unitsOf y.magnitude) 1 =
      (x + y).magnitude := by
    rw [add_eq instant nonneg, sumMagnitude, ofParts_magnitude false (nearestMagnitude_le _ _)]
  have rounded : x + y - x = ofParts false
      (nearestMagnitude (unitsOf (x + y).magnitude - unitsOf x.magnitude) 1) := by
    have ahead := unitsOf_mono forward
    rw [sub_eq_ofUnits instant later (by omega) finite, ← Int.natCast_sub ahead, ofUnits_natCast]
  have wait : (x + y - x).IsInstant := rounded ▸ isInstant_ofParts (nearestMagnitude_le _ _)
  refine ⟨wait, ?_⟩
  rw [rank_add instant (nonneg_of_isInstant wait), later.rank_eq, sumMagnitude, rounded,
    ofParts_magnitude false (nearestMagnitude_le _ _)]
  exact Int.ofNat_le.2 (nearestMagnitude_wait_le instant.numeric delayBounded ends)

/-- What is not after the wait ends not after the sum. -/
theorem add_max_zero_le (notSooner : ¬ x + y - x < delay) : x + delay.max 0 ≤ x + y := by
  have later := instant.add nonneg
  have ends := instant.add (max_zero_nonneg delay)
  rw [ends.le_iff later]
  by_cases positive : 0 < delay
  · rw [max_zero_of_pos positive] at ends ⊢
    by_cases finite : (x + y).magnitude = infinityMagnitude
    · rw [later.rank_eq, finite]
      exact ends.rank_le_infinity
    · obtain ⟨wait, within⟩ := wait_le instant nonneg finite
      have sooner : delay ≤ x + y - x := by
        rw [wait.lt_iff (isInstant_of_pos positive)] at notSooner
        rw [(isInstant_of_pos positive).le_iff wait]
        exact Int.not_lt.1 notSooner
      exact Int.le_trans (rank_add_mono instant (le_of_lt positive) sooner) within
  · rw [add_max_zero_of_not_pos instant positive]
    exact rank_le_add instant nonneg

end Wait

end CoSimulation.Binary64
