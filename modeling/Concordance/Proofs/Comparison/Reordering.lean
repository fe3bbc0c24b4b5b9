import Concordance.Proofs.Comparison.Resumption
import Concordance.Proofs.Comparison.Survey

/-!
# Order matters through first observations only

What a comparator learns depends on the order of the points: the first composition seen for a key
is bound to it.  It depends on nothing else of the order.  The table of first compositions is all
that the verdict on a point looks at beside the point itself (`counter_classifyAll`,
`failures_classifyAll`), so that two lists of the same points with the same table have the same
verdicts, each at another place.

`runComparison_perm` says this of whole comparisons.  The places are the one thing in which the
kept failures differ, hence `FailedPoint.unplaced`.
-/

namespace Concordance

/-- A failed point regardless of its place in the comparison. -/
def FailedPoint.unplaced (f : FailedPoint) : FailedPoint := { f with sequenceRank := 0 }

/-- The place of a point decides about the place that is kept with it and about nothing else. -/
lemma unplaced_failureAgainst (resolver : Resolver) (namer : Namer) (delta : Binary64)
    (table : EquivalenceKey → Option String) (p : SampledPoint) (place : Nat) :
    (failureAgainst resolver namer delta table (p, place)).map FailedPoint.unplaced
      = failureAgainst resolver namer delta table (p, 0) := by
  simp only [failureAgainst]
  split
  · rfl
  · rfl

namespace Comparator

variable {c : Comparator} {points points' : List SampledPoint}

/-! ## Two orders of one list -/

lemma accepts_perm (same : points.Perm points') : c.Accepts points ↔ c.Accepts points' := by
  rw [accepts_iff, accepts_iff]
  simp only [same.mem_iff]

/-- The failures of a list regardless of their places are found point by point. -/
lemma unplaced_failures_classifyAll (accepted : c.Accepts points) :
    (c.classifyAll points).statistics.failures.map FailedPoint.unplaced
      = c.statistics.failures.map FailedPoint.unplaced ++ points.filterMap fun p =>
          failureAgainst c.resolver c.namer c.config.delta (c.tableOf points) (p, 0) := by
  have placeless : ∀ entry : SampledPoint × Nat,
      (failureAgainst c.resolver c.namer c.config.delta (c.tableOf points) entry).map
          FailedPoint.unplaced
        = failureAgainst c.resolver c.namer c.config.delta (c.tableOf points) (entry.1, 0) :=
    fun (p, place) => unplaced_failureAgainst c.resolver c.namer c.config.delta _ p place
  rw [failures_classifyAll accepted, List.map_append, List.map_filterMap]
  simp only [placeless]
  have front := List.filterMap_map (l := points.zipIdx c.classified) (f := Prod.fst)
    (g := fun p => failureAgainst c.resolver c.namer c.config.delta (c.tableOf points) (p, 0))
  rw [List.zipIdx_map_fst] at front
  rw [front]
  rfl

/-- **Two orders with one table come to the same.**  If two lists hold the same points, and show
the same first composition for each key that is not bound before, a comparator that accepts one
accepts the other, and holds the same behind both, the places of the failures apart. -/
theorem classifyAll_perm (same : points.Perm points') (table : c.tableOf points = c.tableOf points')
    (accepted : c.Accepts points) :
    (∀ outcome, (c.classifyAll points').statistics.counter outcome
        = (c.classifyAll points).statistics.counter outcome) ∧
      (c.classifyAll points').statistics.covered = (c.classifyAll points).statistics.covered ∧
      (c.classifyAll points').equivalences = (c.classifyAll points).equivalences ∧
      ((c.classifyAll points').statistics.failures.map FailedPoint.unplaced).Perm
        ((c.classifyAll points).statistics.failures.map FailedPoint.unplaced) := by
  have accepted' := (accepts_perm same).1 accepted
  refine ⟨fun outcome => ?_, OrderedMap.ext_keys fun region => ?_,
    OrderedMap.ext_get? fun key => ?_, ?_⟩
  · rw [counter_classifyAll accepted', counter_classifyAll accepted, ← table, same.countP_eq]
  · rw [covered_classifyAll accepted', covered_classifyAll accepted]
    simp only [same.mem_iff]
  · rw [equivalences_classifyAll accepted', equivalences_classifyAll accepted, table]
  · rw [unplaced_failures_classifyAll accepted', unplaced_failures_classifyAll accepted, ← table]
    exact (same.symm.filterMap _).append_left _

end Comparator

/-! ## Whole comparisons -/

section Whole

open Comparator (rooms visit)

variable {resolver : Resolver} {namer : Namer} {config : Config}
  {points points' : List SampledPoint}

/-- **Order matters through first observations only.**  Take a list of points and another order of
them in which the first point with each key names the same composition.  If a comparison without
budget over the one list ends without a fault, so does the one over the other list, with the same
counters, the same covered regions and the same bindings, and it keeps the same failures, each as
often, when their places are disregarded. -/
theorem runComparison_perm {taken : Nat} (unlimited : config.budget = none)
    (same : points.Perm points')
    (sameFirst : ∀ key,
      firstComposition resolver namer points key = firstComposition resolver namer points' key)
    (completed :
      (runComparison resolver namer config (MemoryTrace.ofPoints points)).result = .ok taken) :
    let run := runComparison resolver namer config (MemoryTrace.ofPoints points)
    let run' := runComparison resolver namer config (MemoryTrace.ofPoints points')
    run'.result = .ok taken ∧
      run'.comparator.statistics.success = run.comparator.statistics.success ∧
      run'.comparator.statistics.failure = run.comparator.statistics.failure ∧
      run'.comparator.statistics.ignored = run.comparator.statistics.ignored ∧
      run'.comparator.statistics.outside = run.comparator.statistics.outside ∧
      run'.comparator.statistics.covered = run.comparator.statistics.covered ∧
      run'.comparator.equivalences = run.comparator.equivalences ∧
      (run'.comparator.statistics.failures.map FailedPoint.unplaced).Perm
        (run.comparator.statistics.failures.map FailedPoint.unplaced) := by
  intro run run'
  let start := Comparator.initial resolver namer config
  obtain ⟨accepted, rfl⟩ := (Comparator.run_ofPoints_eq_ok_iff (c := start) unlimited).1 completed
  have accepted' := (Comparator.accepts_perm same).1 accepted
  have table : start.tableOf points = start.tableOf points' := by
    rw [initial_tableOf, initial_tableOf]
    exact funext sameFirst
  obtain ⟨counters, covered, equivalences, failures⟩ :=
    Comparator.classifyAll_perm same table accepted
  obtain ⟨_, compared⟩ := Comparator.run_memoryTrace unlimited accepted
  obtain ⟨completed', compared'⟩ := Comparator.run_memoryTrace unlimited accepted'
  have behind : run.comparator = start.classifyAll points := compared
  have behind' : run'.comparator = start.classifyAll points' := compared'
  rw [behind, behind']
  refine ⟨completed'.trans ?_, counters .success, counters .failed, counters .ignored,
    counters .outside, covered, equivalences, failures⟩
  rw [same.length_eq]

/-- Fuel comes first in both orders; behind it the point outside and the two points in the water
change places, so that the failure is kept at place 2 here and at place 1 there. -/
theorem runComparison_perm_in_rooms :
    let run := runComparison rooms.resolver rooms.namer ⟨⟨1⟩, none, .tally⟩
      (MemoryTrace.ofPoints [visit 0, visit 4, visit 1, visit 2])
    let run' := runComparison rooms.resolver rooms.namer ⟨⟨1⟩, none, .tally⟩
      (MemoryTrace.ofPoints [visit 0, visit 1, visit 2, visit 4])
    run'.result = .ok 4 ∧ run'.comparator.equivalences = run.comparator.equivalences ∧
      run'.comparator.statistics.ignored = run.comparator.statistics.ignored ∧
      (run'.comparator.statistics.failures.map FailedPoint.unplaced).Perm
        (run.comparator.statistics.failures.map FailedPoint.unplaced) := by
  have same : [visit 0, visit 4, visit 1, visit 2].Perm [visit 0, visit 1, visit 2, visit 4] := by
    decide
  have sameFirst : ∀ key,
      firstComposition rooms.resolver rooms.namer [visit 0, visit 4, visit 1, visit 2] key
        = firstComposition rooms.resolver rooms.namer [visit 0, visit 1, visit 2, visit 4] key := by
    intro key
    have inside : isInside rooms.resolver (visit 0) = true := by decide
    have oneKey : ∀ place, (visit place).key = (visit 0).key := fun _ => rfl
    by_cases known : (visit 0).key = key
    · rw [firstComposition_cons, if_pos ⟨inside, known⟩, firstComposition_cons,
        if_pos ⟨inside, known⟩]
    · simp only [firstComposition_cons, firstComposition_nil, oneKey, known, and_false, if_false]
  have accepted : (Comparator.initial rooms.resolver rooms.namer ⟨⟨1⟩, none, .tally⟩).Accepts
      [visit 0, visit 4, visit 1, visit 2] :=
    Comparator.accepts_of (by decide) (by decide)
  have completed : (runComparison rooms.resolver rooms.namer ⟨⟨1⟩, none, .tally⟩
      (MemoryTrace.ofPoints [visit 0, visit 4, visit 1, visit 2])).result = .ok 4 :=
    (Comparator.run_memoryTrace rfl accepted).1
  obtain ⟨completed', _, _, ignored, _, _, equivalences, failures⟩ :=
    runComparison_perm rfl same sameFirst completed
  exact ⟨completed', equivalences, ignored, failures⟩

end Whole
end Concordance
