import Concordance.Proofs.Comparison.Histories
import Concordance.Proofs.Scene.Distances

/-!
# The distances of failed points

A failed point keeps the distance to the surface of its region, and the report gives the mean and
the largest of these distances.  The invariant of a comparison says where a distance comes from;
in a scene that was read from a document it is therefore a number that is not below zero, and so
are sums of distances, their mean and the largest of them.

* `DistancesDefined` lists what is said of the statistics.
* `distancesDefined_of_sizes` derives it from the distances of the failed points alone.
* `runComparison_distances` is the result for comparisons with scenes.
-/

namespace Concordance

open Binary64 (zero)

namespace Statistics

/-- The failed points have distances that are numbers, not below zero and not below the
tolerance, and the report says of them what it should. -/
structure DistancesDefined (delta : Binary64) (s : Statistics) : Prop where
  failures : ∀ f ∈ s.failures,
    f.distance.isNaN = false ∧ zero.le f.distance = true ∧ f.distance.lt delta = false
  mean_isSome : s.report.meanDistance.isSome = true ↔ 0 < s.report.failure
  max_isSome : s.report.maxDistance.isSome = true ↔ 0 < s.report.failure
  /-- The number of failed points is counted in a word. -/
  mean : s.report.failure < UInt64.size → ∀ mean, s.report.meanDistance = some mean →
    mean.isNaN = false
  max : ∀ max, s.report.maxDistance = some max → max.isNaN = false ∧
    (∃ f ∈ s.failures, f.distance = max) ∧ ∀ f ∈ s.failures, f.distance.le max = true

variable {s : Statistics} {delta : Binary64}

lemma isEmpty_distances (counted : s.failures.length = s.failure) :
    (s.failures.map (·.distance)).isEmpty = false ↔ 0 < s.failure := by
  rw [List.isEmpty_eq_false_iff, ← List.length_pos_iff, List.length_map, counted]

/-- A mean of distances is a number. -/
lemma isNaN_mean {xs : List Binary64} (sizes : ∀ x ∈ xs, zero.le x = true)
    (positive : 0 < xs.length) (small : xs.length < UInt64.size) : (sum xs / .ofNat xs.length).isNaN = false := by
  have total : zero.le (sum xs) = true := Binary64.zero_le_foldl_add sizes (by decide)
  exact Binary64.isNaN_div_eq_false (Binary64.zero_le_iff.1 total).1
    (Binary64.isFinite_ofNat small) (Binary64.isZero_ofNat positive)

/-- **Sizes of distances are enough for the report.** -/
theorem distancesDefined_of_sizes (counted : s.failures.length = s.failure)
    (sizes : ∀ f ∈ s.failures, zero.le f.distance = true)
    (far : ∀ f ∈ s.failures, f.distance.lt delta = false) : s.DistancesDefined delta := by
  have sizes' : ∀ x ∈ s.failures.map (·.distance), zero.le x = true := by
    intro x member
    obtain ⟨f, listed, rfl⟩ := List.mem_map.1 member
    exact sizes f listed
  have empty := isEmpty_distances counted
  refine ⟨?_, ?_, ?_, ?_, ?_⟩
  · intro f member
    exact ⟨(Binary64.zero_le_iff.1 (sizes f member)).1, sizes f member, far f member⟩
  · simp only [report, ← empty]
    cases (s.failures.map (·.distance)).isEmpty <;> simp
  · simp only [report, ← empty]
    cases (s.failures.map (·.distance)).isEmpty <;> simp
  · intro small mean found
    simp only [report] at small found
    split at found
    · cases found
    · rename_i nonempty
      have positive := empty.1 (Bool.eq_false_of_not_eq_true nonempty)
      obtain rfl := Option.some.inj found
      refine isNaN_mean sizes' ?_ ?_
      · rwa [List.length_map, counted]
      · rwa [List.length_map, counted]
  · intro max found
    simp only [report] at found
    split at found
    · cases found
    · rename_i nonempty
      obtain rfl := Option.some.inj found
      have some_failure : s.failures.map (·.distance) ≠ [] := by
        intro empty
        rw [empty] at nonempty
        exact nonempty rfl
      obtain ⟨member, bounds⟩ := Binary64.largest_spec some_failure sizes'
      refine ⟨(Binary64.zero_le_iff.1 (sizes' _ member)).1, List.mem_map.1 member, ?_⟩
      intro f listed
      exact bounds _ (List.mem_map_of_mem listed)

end Statistics

/-- **Distances and report are well defined on scenes.**  In a scene that was read from a document,
a position with a coordinate that is no finite number lies outside.  Every failed point of a
comparison has a distance that is a number, not below zero and not below the tolerance.  So the
report has a mean and a largest distance exactly if a point failed; both are numbers, and the
largest distance is one of the distances and bounds them all. -/
theorem runComparison_distances {text : List Char} {scene : Scene}
    (read : Scene.ofDocument text = .ok scene) (config : Config) {σ : Type} [PointSource σ]
    (source : σ) :
    (∀ p : Position, ¬ p.IsFinite → scene.resolver.regionAt p = .outside) ∧
      Statistics.DistancesDefined config.delta
        (runComparison scene.resolver scene.namer config source).comparator.statistics := by
  have finite := Scene.isFinite_of_ofDocument read
  refine ⟨fun p infinite => Scene.regionAt_of_not_isFinite finite infinite, ?_⟩
  obtain ⟨_, same⟩ := Comparator.run_spec
    (Comparator.initial scene.resolver scene.namer config) source
  have start := Comparator.initial_coherent scene.resolver scene.namer config
  rw [runComparison, same]
  generalize (Comparator.initial scene.resolver scene.namer config).intakeOf source = points
  have coherent := Comparator.classifyAll_coherent start points
  have setting := Comparator.classifyAll_extends
    (Comparator.initial scene.resolver scene.namer config) points
  refine Statistics.distancesDefined_of_sizes coherent.failuresCounted ?_ ?_
  · intro f member
    have justified := coherent.failuresJustified f member
    have region := justified.region
    have inside := coherent.coveredInside _ justified.covered
    rw [setting.resolver] at region
    rw [region] at inside
    rw [justified.distance, setting.namer, region]
    exact Scene.zero_le_surfaceDistance finite inside
  · intro f member
    have far := (coherent.failuresJustified f member).far
    rwa [setting.config] at far

/-- Two boxes of different compositions, the second with faces so far apart that their difference
is infinite.  Of two points in it, under the material of the first, the one on a face is ignored
and the other one fails. -/
theorem runComparison_distances_in_boxes :
    let number (negative : Bool) (exponent : Option Int) : Json.Value :=
      .number ⟨negative, [1], [], exponent⟩
    let corner (negative : Bool) (exponent : Option Int) : Json.Value :=
      .array (List.replicate 3 (number negative exponent))
    let region (id : Int) (name : String) (low high : Json.Value) : Json.Value :=
      .ofFields [("id", .ofInt id), ("composition", .ofString name),
        ("shape", .ofFields [("kind", .ofString "box"), ("min", low), ("max", high)])]
    let text := (Json.Value.ofFields [("regions", .array [
      region 0 "fuel" (corner true none) (corner false none),
      region 1 "water" (corner true (some 308)) (corner false (some 308))])]).text
    let far := Json.Number.powerOfTen 308
    let visit (x : Binary64) : SampledPoint := ⟨⟨x, .zero, .zero⟩, ⟨1⟩, .zero, 0⟩
    ∃ scene, Scene.ofDocument text = .ok scene ∧
      scene.resolver.regionAt ⟨.nan, .zero, .zero⟩ = .outside ∧
      let statistics := (runComparison scene.resolver scene.namer .standard
        (MemoryTrace.ofPoints [visit .zero, visit far, visit (.ofNat 2)])).comparator.statistics
      statistics.DistancesDefined defaultDelta ∧ statistics.report.maxDistance = some far := by
  intro number corner region text far visit
  let one : Binary64 := .ofNat 1
  let scene : Scene := ⟨[⟨⟨0⟩, "fuel", .box ⟨⟨-one, -one, -one⟩, ⟨one, one, one⟩⟩⟩,
    ⟨⟨1⟩, "water", .box ⟨⟨-far, -far, -far⟩, ⟨far, far, far⟩⟩⟩], by decide +kernel⟩
  have read : (Scene.ofDocument text).toOption.map (·.regions) = some scene.regions := by
    decide +kernel
  have opened : Scene.ofDocument text = .ok scene := by
    cases result : Scene.ofDocument text with
    | error fault =>
        rw [result] at read
        cases read
    | ok found =>
        rw [result] at read
        obtain ⟨regions, faultless⟩ := found
        obtain rfl : regions = scene.regions := Option.some.inj read
        rfl
  obtain ⟨outside, defined⟩ := runComparison_distances opened .standard
    (MemoryTrace.ofPoints [visit .zero, visit far, visit (.ofNat 2)])
  have infinite : ¬ Position.IsFinite ⟨.nan, .zero, .zero⟩ := fun finite =>
    absurd finite.x (by decide)
  exact ⟨scene, opened, outside _ infinite, defined, by decide +kernel⟩

end Concordance
