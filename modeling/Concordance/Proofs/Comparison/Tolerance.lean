import Concordance.Proofs.Comparison.Simulation
import Concordance.Proofs.Comparison.Survey

/-!
# A larger tolerance

The tolerance is looked at in one place, behind a mismatch, and decides there between an ignored
point and a failure.  `Statistics.Eases` says what two statistics have in common that differ in
nothing else, and `Loosens` that two comparators differ in their tolerance and in such statistics.
One point keeps it (`loosens_simulation`): a mismatch closer than the smaller tolerance is closer
than the larger one, and a mismatch between the two moves from the failures to the ignored points.

A distance that is no number is never closer than a tolerance, so such a point fails under both.
-/

namespace Concordance

variable {delta : Binary64} {s s' : Statistics} {p : SampledPoint} {verdict : Verdict}

/-! ## Statistics -/

/-- The failures closer than `delta` have become ignored points, and all else is the same. -/
structure Statistics.Eases (delta : Binary64) (s s' : Statistics) : Prop where
  success : s'.counter .success = s.counter .success
  outside : s'.counter .outside = s.counter .outside
  mismatches : s'.counter .failed + s'.counter .ignored = s.counter .failed + s.counter .ignored
  ignored : s.counter .ignored ≤ s'.counter .ignored
  covered : s'.covered = s.covered
  totalRegions : s'.totalRegions = s.totalRegions
  failures : s'.failures = s.failures.filter fun f => !f.distance.lt delta

namespace Statistics.Eases

lemma total (h : Eases delta s s') : s'.total = s.total := by
  have success : s'.success = s.success := h.success
  have outside : s'.outside = s.outside := h.outside
  have mismatches : s'.failure + s'.ignored = s.failure + s.ignored := h.mismatches
  simp only [Statistics.total]
  omega

/-- A verdict that keeps no failure, or one that is not close, is noted alike in both. -/
lemma note (h : Eases delta s s') (n : Nat)
    (far : ∀ f ∈ verdict.failure? p n, f.distance.lt delta = false) :
    Eases delta (Comparator.note s p n verdict) (Comparator.note s' p n verdict) where
  success := by rw [Comparator.note_counter, Comparator.note_counter, h.success]
  outside := by rw [Comparator.note_counter, Comparator.note_counter, h.outside]
  mismatches := by
    have mismatches := h.mismatches
    simp only [Comparator.note_counter]
    omega
  ignored := by
    rw [Comparator.note_counter, Comparator.note_counter]
    exact Nat.add_le_add_right h.ignored _
  covered := by rw [Comparator.note_covered, Comparator.note_covered, h.covered]
  totalRegions := by
    rw [Comparator.note_totalRegions, Comparator.note_totalRegions, h.totalRegions]
  failures := by
    have kept : (verdict.failure? p n).toList.filter (fun f => !f.distance.lt delta)
        = (verdict.failure? p n).toList := by
      rw [List.filter_eq_self]
      intro f member
      rw [far f (Option.mem_toList.1 member)]
      rfl
    rw [Comparator.note_failures, Comparator.note_failures, List.filter_append, h.failures, kept]

/-- A mismatch that is close is a failure here and an ignored point there. -/
lemma note_near (h : Eases delta s s') (p : SampledPoint) (n : Nat) (region : RegionId)
    (expected found : String) {distance : Binary64} (near : distance.lt delta = true) :
    Eases delta (Comparator.note s p n (.mismatch region expected found distance))
      (Comparator.note s' p n (.nearSurface region distance)) where
  success := h.success
  outside := h.outside
  mismatches := by
    have mismatches := h.mismatches
    simp only [Comparator.note_counter, Verdict.outcome, if_true, reduceCtorEq, if_false]
    omega
  ignored := Nat.le_succ_of_le h.ignored
  covered := by
    rw [Comparator.note_covered, Comparator.note_covered, h.covered]
    rfl
  totalRegions := h.totalRegions
  failures := by
    rw [Comparator.note_failures, Comparator.note_failures, List.filter_append, h.failures]
    simp [Verdict.failure?, FailedPoint.of, near]

end Statistics.Eases

/-! ## Comparators -/

/-- How an outcome under a tolerance answers the outcome under a smaller one. -/
def Outcome.IgnoresMore (outcome outcome' : Outcome) : Prop :=
  outcome' = outcome ∨ outcome = .failed ∧ outcome' = .ignored

namespace Comparator

variable {c c' : Comparator}

/-- A comparison under another tolerance, with what has been counted under it. -/
def underTolerance (c : Comparator) (delta : Binary64) (s : Statistics) : Comparator :=
  { c with config := { c.config with delta := delta }, statistics := s }

/-- `c'` is `c` under a tolerance that is not smaller, and in step with it. -/
structure Loosens (c c' : Comparator) : Prop where
  larger : c.config.delta.le c'.config.delta = true
  same : c' = c.underTolerance c'.config.delta c'.statistics
  eases : c.statistics.Eases c'.config.delta c'.statistics

lemma Loosens.learned (h : Loosens c c') :
    c'.equivalences = c.equivalences ∧ c'.classified = c.classified := by
  rw [h.same]
  exact ⟨rfl, rfl⟩

lemma loosens_record (larger : c.config.delta.le delta = true) (eases : c.statistics.Eases delta s)
    (far : ∀ f ∈ verdict.failure? p c.classified, f.distance.lt delta = false) :
    Loosens (c.record p verdict) ((c.underTolerance delta s).record p verdict) where
  larger := larger
  same := rfl
  eases := eases.note c.classified far

/-- **A point keeps two tolerances in step.** -/
theorem loosens_simulation : Simulation Outcome.IgnoresMore Loosens where
  budget := by
    rintro c c' ⟨_, same, _⟩
    rw [same]
    rfl
  refuses := by
    rintro c c' p fault ⟨_, same, _⟩ stopped
    rw [same]
    exact judge_eq_error_of_setting (c := c) rfl rfl (fun _ unnamed => unnamed) stopped
  follows := by
    rintro c c' p verdict ⟨larger, same, eases⟩ found
    generalize c'.config.delta = delta at *
    generalize c'.statistics = s at *
    subst same
    have noFailure : ∀ f ∈ (none : Option FailedPoint), f.distance.lt delta = false := by simp
    cases found with
    | outside out tallied =>
        exact ⟨_, .outside out tallied, .inl rfl, loosens_record larger eases noFailure⟩
    | firstSeen inside named unseen =>
        exact ⟨_, .firstSeen inside named unseen, .inl rfl, loosens_record larger eases noFailure⟩
    | agrees inside named bound =>
        exact ⟨_, .agrees inside named bound, .inl rfl, loosens_record larger eases noFailure⟩
    | nearSurface inside named bound differs near =>
        have near' := Binary64.lt_of_lt_of_le near larger
        exact ⟨_, .nearSurface inside named bound differs near', .inl rfl,
          loosens_record larger eases noFailure⟩
    | @mismatch expected found inside named bound differs far =>
        -- the tolerance decides: the distance may lie between the smaller and the larger one
        cases distance : (c.distanceOf p).lt delta with
        | true =>
            exact ⟨_, .nearSurface inside named bound differs distance, .inr ⟨rfl, rfl⟩,
              larger, rfl, eases.note_near p c.classified _ expected found distance⟩
        | false =>
            refine ⟨_, .mismatch inside named bound differs distance, .inl rfl,
              loosens_record larger eases ?_⟩
            rintro f ⟨⟩
            exact distance

end Comparator

/-! ## Whole comparisons -/

section Whole

open Comparator (rooms visit)

variable {σ : Type} [PointSource σ]

/-- **A larger tolerance ignores more and changes nothing else.**  Under two tolerances, neither of
them a NaN and the second not smaller than the first, comparisons of one source take in the same
points and end in the same way: both without a fault, or with one fault at one point.  They learn
the same bindings, cover the same regions, and count the same successes, points outside and points
altogether.  The failures under the larger tolerance are those under the smaller one that are not
closer than it, with their places.  Point by point, a failure may become an ignored point, and
every other outcome stays. -/
theorem runComparison_of_larger_delta {delta delta' : Binary64} (larger : delta.le delta' = true)
    (resolver : Resolver) (namer : Namer) (budget : Option Nat) (policy : OutsidePolicy)
    (source : σ) :
    let start := Comparator.initial resolver namer ⟨delta, budget, policy⟩
    let start' := Comparator.initial resolver namer ⟨delta', budget, policy⟩
    let run := runComparison resolver namer ⟨delta, budget, policy⟩ source
    let run' := runComparison resolver namer ⟨delta', budget, policy⟩ source
    let s := run.comparator.statistics
    let s' := run'.comparator.statistics
    run'.result = run.result ∧ start'.intakeOf source = start.intakeOf source ∧
      run'.source = run.source ∧ run'.comparator.classified = run.comparator.classified ∧
      run'.comparator.equivalences = run.comparator.equivalences ∧ s'.covered = s.covered ∧
      s'.success = s.success ∧ s'.outside = s.outside ∧ s'.total = s.total ∧
      s'.failure + s'.ignored = s.failure + s.ignored ∧ s.ignored ≤ s'.ignored ∧
      s'.failures = s.failures.filter (fun f => !f.distance.lt delta') ∧
      ∀ front p back, start.intakeOf source = front ++ p :: back →
        ∃ outcome outcome', ((start.classifyAll front).classify p).1 = .ok outcome ∧
          ((start'.classifyAll front).classify p).1 = .ok outcome' ∧
          (outcome' = outcome ∨ outcome = .failed ∧ outcome' = .ignored) := by
  intro start start' run run' s s'
  have fresh : start.statistics.Eases delta' start.statistics :=
    ⟨rfl, rfl, rfl, Nat.le_refl _, rfl, rfl, rfl⟩
  have related : Comparator.Loosens start start' := ⟨larger, rfl, fresh⟩
  obtain ⟨result, intake, place, later, outcomes⟩ :=
    Comparator.loosens_simulation.run related source
  have tolerance : (start'.run source).comparator.config.delta = delta' :=
    congrArg Config.delta (Comparator.run_extends start' source).config
  have eases := later.eases
  rw [tolerance] at eases
  obtain ⟨equivalences, classified⟩ := later.learned
  exact ⟨result, intake, place, classified, equivalences, eases.covered, eases.success,
    eases.outside, eases.total, eases.mismatches, eases.ignored, eases.failures, outcomes⟩

/-- Water under the key of fuel, at a distance that is no number and at distance zero: under the
tolerance zero both fail, since no distance is below zero; under the least positive tolerance the
second is ignored. -/
theorem runComparison_of_larger_delta_in_rooms :
    let source := MemoryTrace.ofPoints [visit 0, visit 1, visit 2]
    let run := runComparison rooms.resolver rooms.namer ⟨.zero, none, .abort⟩ source
    let run' := runComparison rooms.resolver rooms.namer ⟨⟨1⟩, none, .abort⟩ source
    Binary64.zero.le ⟨1⟩ = true ∧ run'.result = run.result ∧
      run.comparator.statistics.failures.map (·.sequenceRank) = [1, 2] ∧
      run'.comparator.statistics.failures.map (·.sequenceRank) = [1] := by
  intro source run run'
  have larger : Binary64.zero.le ⟨1⟩ = true := by decide
  obtain ⟨result, _, _, _, _, _, _, _, _, _, _, failures, _⟩ := runComparison_of_larger_delta larger
    rooms.resolver rooms.namer none .abort source
  have accepted : (Comparator.initial rooms.resolver rooms.namer ⟨.zero, none, .abort⟩).Accepts
      [visit 0, visit 1, visit 2] :=
    Comparator.accepts_of (by decide) (by decide)
  have compared : run.comparator = (Comparator.initial rooms.resolver rooms.namer
      ⟨.zero, none, .abort⟩).classifyAll [visit 0, visit 1, visit 2] :=
    (Comparator.run_memoryTrace rfl accepted).2
  rw [failures, compared]
  exact ⟨larger, result, by decide, by decide⟩

end Whole
end Concordance
