import Concordance.Proofs.Comparison.Recording

/-!
# What holds after any history

A comparator can be given single points and whole sources, in any order, and asked to go on
after a fault.  `Reachable` is the set of the comparators that come about in this way, together
with the points that were compared without a fault.

`Coherent` ties the counters, the failed points, the covered regions and the learned
equivalences to each other and to the geometry.  It is found jointly: that a failed point lies
in a covered region, say, needs that covered regions stay, and that its key is bound needs that
bindings stay.  A verdict that is recorded keeps it (`Finds.record_coherent`), so every
comparison does, so every list of points does; and a history is that of a list of points
(`Reachable.eq_classifyAll`).
-/

namespace Concordance.Comparator

variable {c c' : Comparator} {p : SampledPoint} {verdict : Verdict}

/-! ## The invariant -/

/-- What a failed point in the statistics says of its comparator. -/
structure Justifies (c : Comparator) (f : FailedPoint) : Prop where
  region : f.region = c.resolver.regionAt f.position
  covered : f.region ∈ c.statistics.covered.keys
  distance : f.distance = c.namer.surfaceDistance f.position f.region
  far : f.distance.lt c.config.delta = false
  /-- A key of the material is bound, and not to the composition of the region. -/
  conflict : ∃ key expected found, key.material = f.material ∧
    c.equivalences.get? key = some expected ∧
    c.namer.composition? f.region = some found ∧ expected ≠ found

/-- What the parts of a comparator say of each other. -/
structure Coherent (c : Comparator) : Prop where
  counted : c.statistics.success + c.statistics.failure + c.statistics.ignored +
    c.statistics.outside = c.classified
  noneOutside : c.config.outside = .abort → c.statistics.outside = 0
  failuresCounted : c.statistics.failures.length = c.statistics.failure
  failuresAscend : c.statistics.failures.Pairwise fun f g => f.sequenceRank < g.sequenceRank
  failuresBelow : ∀ f ∈ c.statistics.failures, f.sequenceRank < c.classified
  bindingsEarned : c.equivalences.size ≤ c.statistics.success
  bindingsCovered : ∀ key composition, c.equivalences.get? key = some composition →
    ∃ region ∈ c.statistics.covered.keys, c.namer.composition? region = some composition
  failuresJustified : ∀ f ∈ c.statistics.failures, c.Justifies f
  coveredInside : ∀ region ∈ c.statistics.covered.keys, region.isOutside = false

lemma Justifies.mono {f : FailedPoint} (h : c.Justifies f) (extends' : c.Extends c') :
    c'.Justifies f where
  region := by rw [extends'.resolver]; exact h.region
  covered := extends'.covered _ h.covered
  distance := by rw [extends'.namer]; exact h.distance
  far := by rw [extends'.config]; exact h.far
  conflict := by
    obtain ⟨key, expected, found, material, bound, named, differs⟩ := h.conflict
    refine ⟨key, expected, found, material, extends'.bindings _ _ bound, ?_, differs⟩
    rw [extends'.namer]
    exact named

theorem initial_coherent (resolver : Resolver) (namer : Namer) (config : Config) :
    (initial resolver namer config).Coherent where
  counted := rfl
  noneOutside _ := rfl
  failuresCounted := rfl
  failuresAscend := List.Pairwise.nil
  failuresBelow f member := by simp [initial, Statistics.initial] at member
  bindingsEarned := Nat.le_refl _
  bindingsCovered key composition bound := by simp [initial] at bound
  failuresJustified f member := by simp [initial, Statistics.initial] at member
  coveredInside region member := by simp [initial, Statistics.initial] at member

/-! ## One step -/

/-- A failed point that is kept has the number of its point, and is one by all that was found. -/
lemma Finds.justifies {f : FailedPoint} (found : c.Finds p verdict)
    (kept : verdict.failure? p c.classified = some f) :
    f.sequenceRank = c.classified ∧ (c.record p verdict).Justifies f := by
  cases found with
  | mismatch inside named bound differs far =>
      obtain rfl := Option.some.inj kept
      refine ⟨rfl, rfl, ?_, rfl, far, p.key, _, _, rfl, bound, named, differs⟩
      exact mem_covered_record.2 (.inl rfl)
  | _ => simp [Verdict.failure?] at kept

lemma Finds.inside_of_region? {region : RegionId} (found : c.Finds p verdict)
    (h : verdict.region? = some region) : region.isOutside = false := by
  rcases found.outside_or_inside with ⟨_, _, rfl⟩ | ⟨inside, _, about⟩
  · simp [Verdict.region?] at h
  · obtain rfl := Option.some.inj (about.symm.trans h)
    exact inside

lemma Finds.outcome_of_abort (found : c.Finds p verdict) (abort : c.config.outside = .abort) :
    verdict.outcome ≠ .outside := by
  cases found with
  | outside out tallied => simp [abort] at tallied
  | _ => exact Outcome.noConfusion

lemma length_failure? (p : SampledPoint) (n : Nat) (verdict : Verdict) :
    (verdict.failure? p n).toList.length = if verdict.outcome = .failed then 1 else 0 := by
  cases verdict <;> rfl

/-- **Recording a verdict keeps the parts in agreement.** -/
theorem Finds.record_coherent (found : c.Finds p verdict) (h : c.Coherent) :
    (c.record p verdict).Coherent := by
  have grown := found.record_extends
  have counter := c.record_counter p verdict
  have failures := c.record_failures p verdict
  constructor
  case counted => exact (note_total _ _ _ _).trans (congrArg (· + 1) h.counted)
  case noneOutside =>
    intro abort
    have same := counter .outside
    rw [if_neg (found.outcome_of_abort abort)] at same
    exact same.trans (h.noneOutside abort)
  case failuresCounted =>
    rw [failures, List.length_append, length_failure?, h.failuresCounted]
    exact (counter .failed).symm
  case failuresAscend =>
    rw [failures, List.pairwise_append]
    refine ⟨h.failuresAscend, ?_, ?_⟩
    · cases verdict.failure? p c.classified <;> simp
    · intro f member g last
      have number := (found.justifies (Option.mem_toList.1 last)).1
      rw [number]
      exact h.failuresBelow f member
  case failuresBelow =>
    rw [failures]
    intro f member
    rcases List.mem_append.1 member with member | last
    · exact Nat.lt_succ_of_lt (h.failuresBelow f member)
    · have number := (found.justifies (Option.mem_toList.1 last)).1
      rw [number]
      exact Nat.lt_succ_self _
  case bindingsEarned =>
    have success : (c.record p verdict).statistics.success
        = c.statistics.success + if verdict.outcome = .success then 1 else 0 := counter .success
    rw [success]
    exact Nat.le_trans found.size_learn_le (Nat.add_le_add_right h.bindingsEarned _)
  case bindingsCovered =>
    intro key composition bound
    -- a binding is there before, or is that of the region which the verdict covers
    rcases found.get?_learn bound with old | ⟨_, rfl, named⟩
    · obtain ⟨region, member, named⟩ := h.bindingsCovered key composition old
      exact ⟨region, grown.covered region member, named⟩
    · exact ⟨c.regionOf p, mem_covered_record.2 (.inl rfl), named⟩
  case failuresJustified =>
    rw [failures]
    intro f member
    rcases List.mem_append.1 member with member | last
    -- an earlier failure keeps its reasons, because everything they speak of only grows
    · exact (h.failuresJustified f member).mono grown
    · exact (found.justifies (Option.mem_toList.1 last)).2
  case coveredInside =>
    intro region member
    rcases mem_covered_record.1 member with new | old
    · exact found.inside_of_region? new
    · exact h.coveredInside region old

/-! ## Every step -/

lemma classify_coherent (c : Comparator) (p : SampledPoint) (h : c.Coherent) :
    (c.classify p).2.Coherent := by
  rcases classify_cases c p with ⟨_, _, same⟩ | ⟨verdict, found, recorded⟩
  · rw [same]
    exact h
  · rw [recorded]
    exact found.record_coherent h

lemma classifyAll_coherent (h : c.Coherent) (points : List SampledPoint) :
    (c.classifyAll points).Coherent :=
  classifyAll_induction classify_coherent h points

/-- Every point that is compared without a fault is counted once. -/
lemma classified_classifyAll {points : List SampledPoint} (accepted : c.Accepts points) :
    (c.classifyAll points).classified = c.classified + points.length := by
  induction points generalizing c with
  | nil => rfl
  | cons p rest ih =>
      obtain ⟨verdict, found, accepted⟩ := accepts_cons.1 accepted
      rw [found.classifyAll_cons, ih accepted, record_classified, List.length_cons]
      omega

/-! ## Histories -/

/-- The comparators that come about from calls of `classify` and `run` in any order, on any
points and sources, also after faults; with each the points compared without a fault so far. -/
inductive Reachable (resolver : Resolver) (namer : Namer) (config : Config) :
    List SampledPoint → Comparator → Prop
  | initial : Reachable resolver namer config [] (initial resolver namer config)
  | classified {points : List SampledPoint} {c : Comparator} {p : SampledPoint}
      {outcome : Outcome} (before : Reachable resolver namer config points c)
      (compared : (c.classify p).1 = .ok outcome) :
      Reachable resolver namer config (points ++ [p]) (c.classify p).2
  | refused {points : List SampledPoint} {c : Comparator} {p : SampledPoint}
      {fault : ComparisonFault} (before : Reachable resolver namer config points c)
      (stopped : (c.classify p).1 = .error fault) :
      Reachable resolver namer config points (c.classify p).2
  | run {points : List SampledPoint} {c : Comparator} {σ : Type} [PointSource σ]
      (before : Reachable resolver namer config points c) (source : σ) :
      Reachable resolver namer config (points ++ c.intakeOf source) (c.run source).comparator

variable {resolver : Resolver} {namer : Namer} {config : Config} {points : List SampledPoint}

/-- **A history is that of the points compared without a fault.**  Neither the calls that were
refused nor the division into runs leaves anything behind. -/
theorem Reachable.eq_classifyAll (h : Reachable resolver namer config points c) :
    c = (Comparator.initial resolver namer config).classifyAll points ∧
      (Comparator.initial resolver namer config).Accepts points := by
  induction h with
  | initial => exact ⟨rfl, trivial⟩
  | @classified points c p outcome _ compared ih =>
      obtain ⟨rfl, accepted⟩ := ih
      rw [classifyAll_append, accepts_append]
      exact ⟨rfl, accepted, ⟨outcome, compared⟩, trivial⟩
  | refused _ stopped ih =>
      rw [classify_error stopped]
      exact ih
  | @run points c σ _ _ source ih =>
      obtain ⟨rfl, accepted⟩ := ih
      obtain ⟨takes, comparator⟩ := run_spec
        ((Comparator.initial resolver namer config).classifyAll points) source
      rw [classifyAll_append, accepts_append]
      exact ⟨comparator, accepted, takes.accepted⟩

/-- **The invariant of all histories.**  In every reachable comparator the parts agree, the
points compared are those that were compared without a fault, and whatever is called next, also
if it ends with a fault, only adds to what is held. -/
theorem reachable_invariant (h : Reachable resolver namer config points c) :
    c.resolver = resolver ∧ c.namer = namer ∧ c.config = config ∧
      c.classified = points.length ∧ c.Coherent ∧ (∀ p, c.Extends (c.classify p).2) ∧
      ∀ {σ : Type} [PointSource σ] (source : σ), c.Extends (c.run source).comparator := by
  obtain ⟨rfl, accepted⟩ := h.eq_classifyAll
  have start := initial_coherent resolver namer config
  have grown := classifyAll_extends (Comparator.initial resolver namer config) points
  have counted := classified_classifyAll accepted
  refine ⟨grown.resolver, grown.namer, grown.config, ?_, ?_, ?_, ?_⟩
  · rw [counted]
    exact Nat.zero_add _
  · exact classifyAll_coherent start points
  · exact classify_extends _
  · exact run_extends _

/-- Fuel, then a point that is refused, then a run that finds water under the same material and
ends with a fault at a point outside: two points are counted, and one failure is kept. -/
theorem reachable_invariant_in_rooms :
    ∃ c, Reachable rooms.resolver rooms.namer ⟨⟨1⟩, none, .abort⟩ [visit 0, visit 1] c ∧
      c.Coherent ∧ c.classified = 2 ∧ c.statistics.failures.length = 1 := by
  have accepted : ((entering .abort).classify (visit 0)).1 = .ok .success := rfl
  have failed : (((entering .abort).classify (visit 0)).2.classify (visit 3)).1
      = .error (.unnamedRegion ⟨2⟩) := rfl
  have refused : Reachable rooms.resolver rooms.namer ⟨⟨1⟩, none, .abort⟩ [visit 0]
      (((entering .abort).classify (visit 0)).2.classify (visit 3)).2 :=
    .refused (.classified .initial accepted) failed
  have taken : (((entering .abort).classify (visit 0)).2.classify (visit 3)).2.intakeOf
      (MemoryTrace.ofPoints [visit 1, visit 4]) = [visit 1] := by decide +kernel
  have stopped := refused.run (MemoryTrace.ofPoints [visit 1, visit 4])
  rw [taken] at stopped
  obtain ⟨_, _, _, classified, coherent, _⟩ := reachable_invariant stopped
  refine ⟨_, stopped, coherent, classified, ?_⟩
  rw [coherent.failuresCounted, stopped.eq_classifyAll.1]
  rfl

end Concordance.Comparator
