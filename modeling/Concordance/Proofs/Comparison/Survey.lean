import Concordance.Proofs.Comparison.Histories

/-!
# A comparison seen all at once

The comparator meets the points one by one and learns on the way.  A survey has the whole list
before it: `firstComposition` is the composition at the first point with a key,
`outcomeAgainst` judges a point against such a table, and `failureAgainst` says what is kept of
it.  Nothing here goes through the comparator.

The two agree (`runComparison_eq_survey`).  The reason is `tableOf`, the bindings a comparator
holds completed by the first compositions of the points still to come: a comparison binds what
the table has already, so the table is the same before and after each point
(`Finds.tableOf_record`), and the verdict on a point is the one against it
(`Finds.outcome_eq`).
-/

namespace Concordance

/-! ## The survey -/

section Survey

variable (resolver : Resolver) (namer : Namer) (delta : Binary64)

/-- Whether a point lies in a region. -/
def isInside (p : SampledPoint) : Bool := !(resolver.regionAt p.position).isOutside

/-- The composition of the region of a point. -/
def compositionAt (p : SampledPoint) : Option String :=
  namer.composition? (resolver.regionAt p.position)

/-- The composition at the first point inside a region that has the key. -/
def firstComposition (points : List SampledPoint) (key : EquivalenceKey) : Option String :=
  (points.find? fun p => isInside resolver p && decide (p.key = key)).bind
    (compositionAt resolver namer)

/-- What a point counts as, when a table says which composition belongs to which key. -/
def outcomeAgainst (table : EquivalenceKey → Option String) (p : SampledPoint) : Outcome :=
  if isInside resolver p = false then .outside
  else if compositionAt resolver namer p = table p.key then .success
  else if (namer.surfaceDistance p.position (resolver.regionAt p.position)).lt delta then .ignored
  else .failed

/-- What is kept of a point and its place in the list, when a table says which composition
belongs to which key. -/
def failureAgainst (table : EquivalenceKey → Option String) :
    SampledPoint × Nat → Option FailedPoint
  | (p, place) =>
    if outcomeAgainst resolver namer delta table p = .failed then
      some
        { position := p.position
          pointRank := p.rank
          region := resolver.regionAt p.position
          material := p.material
          distance := namer.surfaceDistance p.position (resolver.regionAt p.position)
          sequenceRank := place }
    else none

lemma firstComposition_nil (key : EquivalenceKey) :
    firstComposition resolver namer [] key = none := rfl

lemma firstComposition_cons (p : SampledPoint) (rest : List SampledPoint) (key : EquivalenceKey) :
    firstComposition resolver namer (p :: rest) key
      = if isInside resolver p = true ∧ p.key = key then compositionAt resolver namer p
        else firstComposition resolver namer rest key := by
  rw [firstComposition, List.find?_cons]
  by_cases first : isInside resolver p = true ∧ p.key = key
  · rw [if_pos first]
    simp [first.1, first.2]
  · rw [if_neg first]
    have skipped : (isInside resolver p && decide (p.key = key)) = false := by
      rw [← Bool.not_eq_true, Bool.and_eq_true, decide_eq_true_eq]
      exact first
    rw [skipped]
    rfl

end Survey

/-! ## The comparator against the survey -/

namespace Comparator

variable {c : Comparator} {p : SampledPoint} {verdict : Verdict}

/-- The bindings of a comparator, completed by what the points still to come show first. -/
def tableOf (c : Comparator) (points : List SampledPoint) (key : EquivalenceKey) :
    Option String :=
  (c.equivalences.get? key).or (firstComposition c.resolver c.namer points key)

lemma tableOf_nil (c : Comparator) : c.tableOf [] = c.equivalences.get? := by
  funext key
  rw [tableOf, firstComposition_nil, Option.or_none]

lemma tableOf_of_bound {key : EquivalenceKey} {composition : String}
    (bound : c.equivalences.get? key = some composition) (points : List SampledPoint) :
    c.tableOf points key = some composition := by
  rw [tableOf, bound, Option.some_or]

lemma tableOf_cons_of_outside (out : isInside c.resolver p = false) (rest : List SampledPoint) :
    c.tableOf (p :: rest) = c.tableOf rest := by
  funext key
  rw [tableOf, tableOf, firstComposition_cons, if_neg]
  rintro ⟨inside, _⟩
  rw [out] at inside
  exact Bool.false_ne_true inside

/-- The first composition of a key counts for nothing once the key is bound. -/
lemma tableOf_cons_of_bound {composition : String}
    (bound : c.equivalences.get? p.key = some composition) (rest : List SampledPoint) :
    c.tableOf (p :: rest) = c.tableOf rest := by
  funext key
  by_cases same : p.key = key
  · subst same
    rw [tableOf_of_bound bound, tableOf_of_bound bound]
  · rw [tableOf, tableOf, firstComposition_cons, if_neg]
    exact fun both => same both.2

lemma tableOf_cons_self (inside : isInside c.resolver p = true)
    (unseen : c.equivalences.get? p.key = none) (rest : List SampledPoint) :
    c.tableOf (p :: rest) p.key = compositionAt c.resolver c.namer p := by
  rw [tableOf, unseen, Option.none_or, firstComposition_cons, if_pos ⟨inside, rfl⟩]

lemma isInside_of_inside (inside : (c.regionOf p).isOutside = false) :
    isInside c.resolver p = true := by
  rw [isInside, inside]
  rfl

lemma isInside_of_outside (out : (c.regionOf p).isOutside = true) :
    isInside c.resolver p = false := by
  rw [isInside, out]
  rfl

/-- **The table stays the same.**  What a comparison binds is what the table says already. -/
lemma Finds.tableOf_record (found : c.Finds p verdict) (rest : List SampledPoint) :
    (c.record p verdict).tableOf rest = c.tableOf (p :: rest) := by
  cases found with
  | outside out tallied => exact (tableOf_cons_of_outside (isInside_of_outside out) rest).symm
  | @firstSeen composition inside named unseen =>
      funext key
      have learned : (c.record p (.firstSeen (c.regionOf p) composition)).equivalences
          = c.equivalences.insert p.key composition := Equivalences.observe_of_unseen unseen
      -- before, the table takes this key from `p` as a point to come; after, from the binding
      by_cases same : p.key = key
      · subst same
        rw [tableOf_cons_self (isInside_of_inside inside) unseen, tableOf, learned,
          OrderedMap.get?_insert_self, Option.some_or]
        exact named.symm
      · rw [tableOf, tableOf, learned, OrderedMap.get?_insert_of_ne _ same, firstComposition_cons,
          if_neg fun both => same both.2]
        rfl
  | agrees inside named bound => exact (tableOf_cons_of_bound bound rest).symm
  | nearSurface inside named bound differs near => exact (tableOf_cons_of_bound bound rest).symm
  | mismatch inside named bound differs far => exact (tableOf_cons_of_bound bound rest).symm

/-- **A verdict is one against the table.** -/
lemma Finds.outcome_eq (found : c.Finds p verdict) (rest : List SampledPoint) :
    verdict.outcome
      = outcomeAgainst c.resolver c.namer c.config.delta (c.tableOf (p :: rest)) p := by
  cases found with
  | outside out tallied => rw [outcomeAgainst, if_pos (isInside_of_outside out)]; rfl
  | firstSeen inside named unseen =>
      have here := isInside_of_inside inside
      rw [outcomeAgainst, tableOf_cons_self here unseen, here]
      simp [Verdict.outcome]
  | agrees inside named bound =>
      have here := isInside_of_inside inside
      rw [outcomeAgainst, tableOf_of_bound bound, here, compositionAt]
      simp [Verdict.outcome, named]
  | nearSurface inside named bound differs near =>
      have here := isInside_of_inside inside
      rw [outcomeAgainst, tableOf_of_bound bound, here, compositionAt]
      simp [Verdict.outcome, named, near, Ne.symm differs]
  | mismatch inside named bound differs far =>
      have here := isInside_of_inside inside
      rw [outcomeAgainst, tableOf_of_bound bound, here, compositionAt]
      simp [Verdict.outcome, named, far, Ne.symm differs]

lemma Finds.region?_eq_some_iff {region : RegionId} (found : c.Finds p verdict) :
    verdict.region? = some region ↔ isInside c.resolver p = true ∧ c.regionOf p = region := by
  rcases found.outside_or_inside with ⟨out, _, rfl⟩ | ⟨inside, _, about⟩
  · simp [Verdict.region?, isInside_of_outside out]
  · simp [about, isInside_of_inside inside]

lemma Finds.failure?_eq (found : c.Finds p verdict) (rest : List SampledPoint) (n : Nat) :
    verdict.failure? p n
      = failureAgainst c.resolver c.namer c.config.delta (c.tableOf (p :: rest)) (p, n) := by
  rw [failureAgainst, ← found.outcome_eq rest]
  cases found with
  | _ => rfl

/-! ## Lists of points -/

/-- The outcomes of a list of points are counted against the table. -/
lemma counter_classifyAll {points : List SampledPoint} (accepted : c.Accepts points)
    (outcome : Outcome) :
    (c.classifyAll points).statistics.counter outcome = c.statistics.counter outcome +
      points.countP fun p =>
        outcomeAgainst c.resolver c.namer c.config.delta (c.tableOf points) p == outcome := by
  -- one table for all points: `tableOf_record` moves it from the record back to the whole list
  induction points generalizing c with
  | nil => rfl
  | cons p rest ih =>
      obtain ⟨verdict, found, accepted⟩ := accepts_cons.1 accepted
      rw [found.classifyAll_cons, ih accepted, found.tableOf_record rest, List.countP_cons,
        record_counter, found.outcome_eq rest]
      simp only [record_resolver, record_namer, record_config, beq_iff_eq]
      omega

/-- The bindings at the end are those of the table. -/
lemma equivalences_classifyAll {points : List SampledPoint} (accepted : c.Accepts points) :
    (c.classifyAll points).equivalences.get? = c.tableOf points := by
  induction points generalizing c with
  | nil => exact (tableOf_nil c).symm
  | cons p rest ih =>
      obtain ⟨verdict, found, accepted⟩ := accepts_cons.1 accepted
      rw [found.classifyAll_cons, ih accepted, found.tableOf_record rest]

/-- The failed points are those against the table, each with its place. -/
lemma failures_classifyAll {points : List SampledPoint} (accepted : c.Accepts points) :
    (c.classifyAll points).statistics.failures = c.statistics.failures ++
      (points.zipIdx c.classified).filterMap
        (failureAgainst c.resolver c.namer c.config.delta (c.tableOf points)) := by
  induction points generalizing c with
  | nil => exact (List.append_nil _).symm
  | cons p rest ih =>
      obtain ⟨verdict, found, accepted⟩ := accepts_cons.1 accepted
      rw [found.classifyAll_cons, ih accepted, found.tableOf_record rest, List.zipIdx_cons,
        List.filterMap_cons, ← found.failure?_eq rest]
      simp only [record_resolver, record_namer, record_config, record_classified, record_failures,
        List.append_assoc]
      cases verdict.failure? p c.classified with
      | none => rfl
      | some f => rfl

/-- The covered regions are those of the points inside. -/
lemma covered_classifyAll {points : List SampledPoint} (accepted : c.Accepts points)
    (region : RegionId) :
    region ∈ (c.classifyAll points).statistics.covered.keys ↔
      region ∈ c.statistics.covered.keys ∨
        ∃ p ∈ points, isInside c.resolver p = true ∧ c.regionOf p = region := by
  induction points generalizing c with
  | nil => simp
  | cons p rest ih =>
      obtain ⟨verdict, found, accepted⟩ := accepts_cons.1 accepted
      rw [found.classifyAll_cons, ih accepted, mem_covered_record,
        found.region?_eq_some_iff, or_assoc, or_left_comm]
      simp only [regionOf, record_resolver, List.mem_cons, exists_eq_or_imp]

lemma accepts_of {points : List SampledPoint}
    (tolerated : c.config.outside = .abort → ∀ p ∈ points, isInside c.resolver p = true)
    (named : ∀ p ∈ points, isInside c.resolver p = true →
      (compositionAt c.resolver c.namer p).isSome = true) :
    c.Accepts points := by
  rw [accepts_iff]
  intro p member
  constructor
  · intro out
    cases policy : c.config.outside with
    | tally => rfl
    | abort =>
        have inside := tolerated policy p member
        rw [isInside_of_outside out] at inside
        exact absurd inside Bool.false_ne_true
  · intro inside
    exact Option.isSome_iff_exists.1 (named p member (isInside_of_inside inside))

end Comparator

/-! ## Whole comparisons -/

section Whole

open Comparator (rooms visit)

variable {resolver : Resolver} {namer : Namer} {config : Config} {points : List SampledPoint}

lemma initial_tableOf :
    (Comparator.initial resolver namer config).tableOf points
      = firstComposition resolver namer points := by
  funext key
  rw [Comparator.tableOf, Comparator.initial, OrderedMap.get?_empty, Option.none_or]

/-- **A comparison is the survey of its points.**  If no point is outside under a policy that
stops there, and every point inside lies in a region with a composition, a comparison without
budget takes all points, binds each key to the composition at its first point, and counts and
keeps exactly what that table says of the points. -/
theorem runComparison_eq_survey (unlimited : config.budget = none)
    (tolerated : config.outside = .abort → ∀ p ∈ points, isInside resolver p = true)
    (named : ∀ p ∈ points, isInside resolver p = true →
      (compositionAt resolver namer p).isSome = true) :
    let run := runComparison resolver namer config (MemoryTrace.ofPoints points)
    let statistics := run.comparator.statistics
    let table := firstComposition resolver namer points
    let outcome := outcomeAgainst resolver namer config.delta table
    run.result = .ok points.length ∧
      (∀ key, run.comparator.equivalences.get? key = table key) ∧
      statistics.success = (points.countP fun p => outcome p == .success) ∧
      statistics.ignored = (points.countP fun p => outcome p == .ignored) ∧
      statistics.failure = (points.countP fun p => outcome p == .failed) ∧
      statistics.outside = (points.countP fun p => outcome p == .outside) ∧
      statistics.failures
        = points.zipIdx.filterMap (failureAgainst resolver namer config.delta table) ∧
      (∀ region, region ∈ statistics.covered.keys ↔
        ∃ p ∈ points, isInside resolver p = true ∧ resolver.regionAt p.position = region) ∧
      statistics.totalRegions = resolver.regionCount ∧ statistics.total = points.length ∧
      run.comparator.classified = points.length := by
  intro run statistics table outcome
  have accepted : (Comparator.initial resolver namer config).Accepts points :=
    Comparator.accepts_of tolerated named
  obtain ⟨result, comparator⟩ := Comparator.run_memoryTrace unlimited accepted
  have same : run.comparator = (Comparator.initial resolver namer config).classifyAll points :=
    comparator
  have counted : ∀ o, statistics.counter o = points.countP fun p => outcome p == o := by
    intro o
    have counter := Comparator.counter_classifyAll accepted o
    rw [initial_tableOf, ← same] at counter
    rw [counter]
    cases o with
    | _ => exact Nat.zero_add _
  have classified : run.comparator.classified = points.length := by
    rw [same, Comparator.classified_classifyAll accepted]
    exact Nat.zero_add _
  have coherent : run.comparator.Coherent := by
    rw [same]
    exact Comparator.classifyAll_coherent
      (Comparator.initial_coherent resolver namer config) points
  refine ⟨result, ?_, counted .success, counted .ignored, counted .failed, counted .outside,
    ?_, ?_, ?_, ?_, ?_⟩
  · intro key
    rw [same, Comparator.equivalences_classifyAll accepted, initial_tableOf]
  · have failures := Comparator.failures_classifyAll accepted
    rw [initial_tableOf, ← same] at failures
    exact failures
  · intro region
    have covered := Comparator.covered_classifyAll accepted region
    rw [← same] at covered
    rw [covered]
    simp [Comparator.initial, Statistics.initial]
  · have grown := Comparator.classifyAll_extends (.initial resolver namer config) points
    rw [← same] at grown
    exact grown.totalRegions
  · exact coherent.counted.trans classified
  · exact classified

/-- Fuel, a point outside, water at a distance that is no number, and water at the surface: one
outcome of each kind. -/
theorem runComparison_eq_survey_in_rooms :
    let run := runComparison rooms.resolver rooms.namer ⟨⟨1⟩, none, .tally⟩
      (MemoryTrace.ofPoints [visit 0, visit 4, visit 1, visit 2])
    run.result = .ok 4 ∧ run.comparator.equivalences.get? (visit 0).key = some "fuel" ∧
      run.comparator.statistics.success = 1 ∧ run.comparator.statistics.ignored = 1 ∧
      run.comparator.statistics.failure = 1 ∧ run.comparator.statistics.outside = 1 ∧
      run.comparator.statistics.failures.map (·.sequenceRank) = [2] := by
  intro run
  have tolerated : (⟨⟨1⟩, none, .tally⟩ : Config).outside = .abort →
      ∀ p ∈ [visit 0, visit 4, visit 1, visit 2], isInside rooms.resolver p = true := by decide
  have named : ∀ p ∈ [visit 0, visit 4, visit 1, visit 2], isInside rooms.resolver p = true →
      (compositionAt rooms.resolver rooms.namer p).isSome = true := by decide
  obtain ⟨result, bound, success, ignored, failure, outside, failures, _⟩ :=
    runComparison_eq_survey rfl tolerated named
  refine ⟨result, (bound _).trans ?_, success.trans ?_, ignored.trans ?_, failure.trans ?_,
    outside.trans ?_, ?_⟩
  · decide
  · decide
  · decide
  · decide
  · decide
  · rw [failures]
    decide

end Whole

end Concordance
