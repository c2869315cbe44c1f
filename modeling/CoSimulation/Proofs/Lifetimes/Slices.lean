import CoSimulation.Proofs.Host

/-!
# The slices of a workload's life

The passes after a workload's acceptance cut the time since then into slices, each
starting where the one before has ended.  A workload runs once in every slice, from its
start on, until it finishes; the first slice initialises its engine.  `Tiled` says that a
workload has run in all slices so far, `Lived` that it has run in all until it finished.
-/

namespace CoSimulation

/-- A call that sets an engine going. -/
inductive Start where
  | init (time : Milliseconds)
  | run (time : Milliseconds)
deriving DecidableEq

def Call.start? : Call → Option Start
  | .init time => some (.init time)
  | .run _ time _ => some (.run time)
  | .enqueue .. => none

/-- When the engine was set going, in order. -/
def Engine.starts (engine : Engine) : List Start := engine.calls.filterMap Call.start?

/-- The slices that `times` cut off one after the other, the first one from `start` on. -/
def slices (start : Seconds) : List Seconds → List (Seconds × Seconds)
  | [] => []
  | time :: later => (start, time) :: slices time later

/-- The lengths of slices, added up from left to right. -/
def span (slices : List (Seconds × Seconds)) : Seconds :=
  slices.foldl (fun sum slice => sum + (slice.2 - slice.1)) 0

/-- When an engine is to be set going that runs once in every slice. -/
def timetable (start : Seconds) (times : List Seconds) : List Start :=
  match times with
  | [] => []
  | _ :: _ =>
      .init (toEngineTime start) ::
        (slices start times).map fun slice => .run (toEngineTime slice.1)

/-- Where the slice begins that comes next. -/
def latest (start : Seconds) (times : List Seconds) : Seconds := times.getLast?.getD start

theorem slices_concat (start : Seconds) (times : List Seconds) (time : Seconds) :
    slices start (times ++ [time]) = slices start times ++ [(latest start times, time)] := by
  induction times generalizing start with
  | nil => rfl
  | cons first later induction =>
      rw [List.cons_append, slices, induction, slices, List.cons_append]
      cases later <;> rfl

theorem span_concat (parts : List (Seconds × Seconds)) (start time : Seconds) :
    span (parts ++ [(start, time)]) = span parts + (time - start) := by
  simp [span]

@[simp] theorem latest_concat (start : Seconds) (times : List Seconds) (time : Seconds) :
    latest start (times ++ [time]) = time := by
  simp [latest]

theorem timetable_concat (start : Seconds) (times : List Seconds) (time : Seconds) :
    timetable start (times ++ [time]) =
      timetable start times ++ (if times = [] then [.init (toEngineTime start)] else []) ++
        [.run (toEngineTime (latest start times))] := by
  cases times with
  | nil => rfl
  | cons first later =>
      have listed := slices_concat start (first :: later) time
      simp only [timetable, List.cons_append] at listed ⊢
      rw [listed]
      simp

namespace Engine

theorem starts_after (engine : Engine) (call : Call) :
    (engine.after call).starts = engine.starts ++ call.start?.toList := by
  have single : [call].filterMap Call.start? = call.start?.toList := by
    cases call <;> rfl
  rw [starts, calls, after, List.reverse_cons, List.filterMap_append, single]
  rfl

theorem starts_handOverAll (messages : List Message) (engine : Engine) :
    (messages.foldl Workload.handOver engine).starts = engine.starts := by
  induction messages generalizing engine with
  | nil => rfl
  | cons message messages induction =>
      rw [List.foldl_cons, induction, Workload.handOver, enqueue, starts_after]
      exact List.append_nil _

end Engine

namespace Workload

/-- The workload has run once in every slice, and it is finished if the last of them has
reached its duration and none before. -/
structure Tiled (workload : Workload) (start : Seconds) (times : List Seconds) : Prop where
  starts : workload.engine.starts = timetable start times
  elapsed : workload.elapsed = if times = [] then none else some (span (slices start times))
  unfinished : ∀ early, early <+: times → early ≠ [] → early ≠ times →
    workload.reachesEnd (span (slices start early)) = false
  finished : workload.finished =
    (!times.isEmpty && workload.reachesEnd (span (slices start times)))

/-- The workload has run once in every slice until it finished. -/
def Lived (workload : Workload) (start : Seconds) (times : List Seconds) : Prop :=
  ∃ lived rest, times = lived ++ rest ∧ (rest ≠ [] → workload.finished = true) ∧
    workload.Tiled start lived

theorem reachesEnd_eq_of_terms {left right : Workload} (same : left.terms = right.terms) :
    left.reachesEnd = right.reachesEnd := by
  funext time
  have tolerance : left.tolerance = right.tolerance := congrArg Terms.tolerance same
  rw [reachesEnd, duration, placement_eq_of_terms same, tolerance]
  rfl

section Tiled

variable {workload other : Workload} {start : Seconds} {times : List Seconds}

theorem Tiled.congr (tiled : workload.Tiled start times)
    (engine : other.engine.starts = workload.engine.starts)
    (elapsed : other.elapsed = workload.elapsed)
    (finished : other.finished = workload.finished) (terms : other.terms = workload.terms) :
    other.Tiled start times := by
  have ends : other.reachesEnd = workload.reachesEnd := reachesEnd_eq_of_terms terms
  constructor
  · rw [engine, tiled.starts]
  · rw [elapsed, tiled.elapsed]
  · rw [ends]
    exact tiled.unfinished
  · rw [finished, ends, tiled.finished]

theorem Tiled.receive (tiled : workload.Tiled start times) (message : Message) :
    (workload.receive message).Tiled start times := by
  have kept : (workload.receive message).engine = workload.engine ∧
      (workload.receive message).elapsed = workload.elapsed := by
    rw [Workload.receive]
    split <;> exact ⟨rfl, rfl⟩
  exact tiled.congr (congrArg Engine.starts kept.1) kept.2 (workload.finished_receive message)
    (workload.terms_receive message)

theorem Tiled.forward (tiled : workload.Tiled start times) (network : Network)
    (records : List Record) : (workload.forward network records).state.Tiled start times := by
  have kept : (workload.forward network records).state.engine = workload.engine ∧
      (workload.forward network records).state.elapsed = workload.elapsed := by
    rw [Workload.forward]
    split
    · exact ⟨rfl, rfl⟩
    · split <;> exact ⟨rfl, rfl⟩
  exact tiled.congr (congrArg Engine.starts kept.1) kept.2
    (workload.finished_forward network records) (workload.terms_forward network records)

end Tiled

/-! ## A slice more -/

section Run

variable (workload : Workload) (slice : Slice)

theorem starts_run :
    (workload.run slice).2.engine.starts =
      workload.engine.starts ++
          (if workload.elapsed = none then [.init (toEngineTime slice.previous)] else []) ++
        [.run (toEngineTime slice.previous)] := by
  have ready : ((workload.elapse slice.current slice.previous).drain
      slice.previous).engine.starts = workload.engine.starts ++
        if workload.elapsed = none then [.init (toEngineTime slice.previous)] else [] := by
    rw [drain, Engine.starts_handOverAll, elapse]
    cases workload.elapsed with
    | none => exact Engine.starts_after _ _
    | some elapsed => exact (List.append_nil _).symm
  rw [← ready]
  exact Engine.starts_after _ _

theorem elapsed_run :
    (workload.run slice).2.elapsed =
      some (workload.elapsed.getD 0 + (slice.current - slice.previous)) := by
  have elapsed : (workload.elapse slice.current slice.previous).elapsed =
      some (workload.elapsed.getD 0 + (slice.current - slice.previous)) := by
    rw [elapse]
    cases workload.elapsed <;> rfl
  exact elapsed

theorem terms_run : (workload.run slice).2.terms = workload.terms :=
  workload.terms_elapse slice.current slice.previous

theorem finished_run :
    (workload.run slice).2.finished =
      workload.reachesEnd (workload.elapsed.getD 0 + (slice.current - slice.previous)) := by
  have elapsed := workload.elapsed_run slice
  have ended : (workload.run slice).2.finished =
      (workload.elapse slice.current slice.previous).reachesEnd
        ((workload.run slice).2.elapsed.getD 0) := rfl
  rw [ended, elapsed, reachesEnd_eq_of_terms (workload.terms_elapse _ _)]
  rfl

end Run

section More

variable {workload : Workload} {start time : Seconds} {times : List Seconds}

theorem Tiled.elapsed_getD (tiled : workload.Tiled start times) :
    workload.elapsed.getD 0 = span (slices start times) := by
  rw [tiled.elapsed]
  split
  · rename_i nothing
    rw [nothing]
    rfl
  · rfl

theorem Tiled.run (tiled : workload.Tiled start times) (running : workload.finished = false)
    {slice : Slice} (current : slice.current = time)
    (previous : slice.previous = latest start times) :
    (workload.run slice).2.Tiled start (times ++ [time]) := by
  have whole : span (slices start (times ++ [time])) =
      workload.elapsed.getD 0 + (slice.current - slice.previous) := by
    rw [slices_concat, span_concat, tiled.elapsed_getD, current, previous]
  have ends := reachesEnd_eq_of_terms (workload.terms_run slice)
  constructor
  · have first : workload.elapsed = none ↔ times = [] := by
      rw [tiled.elapsed]
      split <;> simp_all
    rw [starts_run, timetable_concat, tiled.starts, previous]
    simp only [first]
    congr 2
    split
    · rename_i nothing
      rw [nothing]
      rfl
    · rfl
  · rw [elapsed_run, if_neg (by simp), whole]
  · intro early begins some different
    rw [ends]
    have within : early <+: times := by
      rcases List.prefix_concat_iff.1 begins with same | within
      · exact absurd same different
      · exact within
    by_cases same : early = times
    · have finished := tiled.finished
      rw [running, ← same] at finished
      simpa [some] using finished.symm
    · exact tiled.unfinished early within some same
  · rw [finished_run, ends, whole]
    simp

/-- A workload takes its turn in a slice, unless it has finished before. -/
theorem Tiled.turn (tiled : workload.Tiled start times) (running : workload.finished = false)
    (network : Network) (capacity : Binary64) (monotone : ¬ time < latest start times) :
    (workload.turn network time (latest start times) capacity).workload.Tiled start
      (times ++ [time]) := by
  have ran : (workload.run (workload.sliceOf time (latest start times) capacity)).2.Tiled start
      (times ++ [time]) := tiled.run running rfl rfl
  rw [turn_of_running running monotone]
  exact ran.forward network _

theorem Tiled.lived (tiled : workload.Tiled start times) : workload.Lived start times :=
  ⟨times, [], (List.append_nil times).symm, nofun, tiled⟩

theorem Lived.tiled (lived : workload.Lived start times) (running : workload.finished = false) :
    workload.Tiled start times := by
  obtain ⟨early, rest, rfl, ended, tiled⟩ := lived
  cases rest with
  | nil => simpa using tiled
  | cons time later =>
      rw [ended nofun] at running
      cases running

/-- Passes are nothing to a workload that has finished. -/
theorem Lived.concat (lived : workload.Lived start times) (finished : workload.finished = true)
    (time : Seconds) : workload.Lived start (times ++ [time]) := by
  obtain ⟨early, rest, rfl, -, tiled⟩ := lived
  exact ⟨early, rest ++ [time], List.append_assoc _ _ _, fun _ => finished, tiled⟩

theorem Lived.receive (lived : workload.Lived start times) (message : Message) :
    (workload.receive message).Lived start times := by
  obtain ⟨early, rest, listed, ended, tiled⟩ := lived
  refine ⟨early, rest, listed, ?_, tiled.receive message⟩
  rw [finished_receive]
  exact ended

end More

end Workload

end CoSimulation
