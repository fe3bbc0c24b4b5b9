import Concordance.Proofs.Comparison.Plans
import Concordance.Proofs.Comparison.Survey
import Concordance.Proofs.Scene.Queries

/-!
# Comparisons that stay within their model

When one scene resolves and names, a region that is found has a composition, so one of the two
faults of a comparison cannot arise; with the other one tolerated, none is left.  The regions a
comparison covers are regions of the points it was given, so there are no more of them than the
scene declares.

A scripted geometry may place points in regions that it does not declare.  There the fault does
arise, and the bound holds because of it: a region is covered only behind its name
(`Reachable.covered_named`).
-/

namespace Concordance

open PointSource

namespace Comparator

variable {resolver : Resolver} {namer : Namer} {config : Config} {points : List SampledPoint}
  {c : Comparator} {region : RegionId}

/-! ## Covered regions of a history -/

/-- The covered regions of a history are those of its points inside. -/
lemma Reachable.mem_covered_iff (h : Reachable resolver namer config points c) :
    region ∈ c.statistics.covered.keys ↔
      ∃ p ∈ points, isInside resolver p = true ∧ resolver.regionAt p.position = region := by
  obtain ⟨rfl, accepted⟩ := h.eq_classifyAll
  rw [covered_classifyAll accepted]
  simp [Comparator.initial, Statistics.initial, regionOf]

lemma outside_of_isInside {p : SampledPoint} (h : isInside resolver p = true) :
    (resolver.regionAt p.position).isOutside = false := by
  simpa [isInside] using h

/-- A region is covered only behind its name. -/
lemma Reachable.covered_named (h : Reachable resolver namer config points c)
    (covered : region ∈ c.statistics.covered.keys) :
    ∃ composition, namer.composition? region = some composition := by
  obtain ⟨p, member, inside, rfl⟩ := h.mem_covered_iff.1 covered
  have admitted := accepts_iff.1 h.eq_classifyAll.2 p member
  exact admitted.named (outside_of_isInside inside)

lemma Reachable.totalRegions (h : Reachable resolver namer config points c) :
    c.statistics.totalRegions = resolver.regionCount := by
  rw [h.eq_classifyAll.1]
  exact (classifyAll_extends (.initial resolver namer config) points).totalRegions

end Comparator

/-! ## Scenes -/

namespace Scene

open Comparator

variable {scene : Scene} {config : Config} {points : List SampledPoint} {c : Comparator}
  {region : RegionId}

/-- Where a scene resolves a point, it knows the region by its identifier. -/
lemma exists_region_of_isInside {p : SampledPoint} (inside : isInside scene.resolver p = true) :
    ∃ r ∈ scene.regions, r.shape.contains p.position = true ∧
      scene.resolver.regionAt p.position = r.id ∧
      scene.namer.composition? (scene.resolver.regionAt p.position) = some r.composition := by
  cases found : scene.regionAt? p.position with
  | none =>
      have outside := outside_of_isInside inside
      rw [regionAt_of_none found] at outside
      exact absurd outside (by decide)
  | some r =>
      obtain ⟨member, contained⟩ := regionAt?_eq_some found
      have resolved : scene.resolver.regionAt p.position = r.id := by
        simp only [resolver, found]
      exact ⟨r, member, contained, resolved, composition?_of_regionAt? found⟩

/-- A comparison with a scene meets no region without composition. -/
lemma judge_ne_unnamed (resolves : c.resolver = scene.resolver) (names : c.namer = scene.namer)
    (p : SampledPoint) : c.judge p ≠ .error (.unnamedRegion region) := by
  intro stopped
  rcases judge_eq_error_iff.1 stopped with ⟨_, _, other⟩ | ⟨inside, unnamed, _⟩
  · simp at other
  · rw [regionOf, resolves] at inside
    have here : isInside scene.resolver p = true := by
      rw [isInside, inside]
      rfl
    obtain ⟨r, _, _, _, named⟩ := exists_region_of_isInside here
    rw [regionOf, resolves, names, named] at unnamed
    simp at unnamed

/-- The only fault that a point can raise is that it lies outside. -/
lemma admits_of_tally (tallied : config.outside = .tally) (p : SampledPoint) :
    (initial scene.resolver scene.namer config).Admits p where
  tolerated _ := tallied
  named inside := by
    have here := isInside_of_inside (c := initial scene.resolver scene.namer config) inside
    obtain ⟨r, _, _, _, named⟩ := exists_region_of_isInside here
    exact ⟨r.composition, named⟩

/-- A run that ends with a fault ends with one of the source or with a point outside. -/
lemma run_ne_unnamed {σ : Type} [PointSource σ] (resolves : c.resolver = scene.resolver)
    (names : c.namer = scene.namer) (source : σ) :
    (c.run source).result ≠ .error (.unnamedRegion region) := by
  intro failed
  obtain ⟨takes, _⟩ := run_spec c source
  have halts := takes.halts
  rw [failed] at halts
  cases halts with
  | refused room given stopped =>
      have grown := classifyAll_extends c (c.intakeOf source)
      rcases classify_cases (c.classifyAll (c.intakeOf source)) _ with
        ⟨fault, judged, same⟩ | ⟨_, _, recorded⟩
      · rw [same] at stopped
        obtain rfl := Except.error.inj stopped
        exact judge_ne_unnamed (grown.resolver.trans resolves) (grown.namer.trans names) _ judged
      · rw [recorded] at stopped
        simp at stopped

/-- Each covered region is declared, and one of the points compared lies in it. -/
lemma exists_of_covered (h : Reachable scene.resolver scene.namer config points c)
    (covered : region ∈ c.statistics.covered.keys) :
    ∃ r ∈ scene.regions, r.id = region ∧ ∃ p ∈ points, r.shape.contains p.position = true := by
  obtain ⟨p, member, inside, rfl⟩ := h.mem_covered_iff.1 covered
  obtain ⟨r, declared, contained, resolved, _⟩ := exists_region_of_isInside inside
  exact ⟨r, declared, resolved.symm, p, member, contained⟩

lemma size_covered_le (h : Reachable scene.resolver scene.namer config points c) :
    c.statistics.covered.size ≤ scene.regions.length := by
  rw [← List.length_map (·.id)]
  refine OrderedMap.size_le_of_keys_subset fun region covered => ?_
  obtain ⟨r, declared, same, _⟩ := exists_of_covered h covered
  exact List.mem_map.2 ⟨r, declared, same⟩

end Scene

/-! ## Scripted geometries -/

namespace ScriptedGeometry

open Comparator

/-- The covered regions are declared, since others have no name. -/
lemma size_covered_le {g : ScriptedGeometry} {config : Config} {points : List SampledPoint}
    {c : Comparator} (h : Reachable g.resolver g.namer config points c) :
    c.statistics.covered.size ≤ g.names.size := by
  rw [← OrderedMap.length_keys g.names]
  refine OrderedMap.size_le_of_keys_subset fun region covered => ?_
  exact OrderedMap.mem_keys_iff.2 (h.covered_named covered)

end ScriptedGeometry

/-! ## Both -/

section Both

open Comparator

/-- **A comparison stays within its model.**  With one scene to resolve and to name, no comparison
meets a region without composition, whatever the source; if points outside are tolerated, one over
a trace in memory has no fault at all and takes every point that is planned.  After any history
each covered region is declared and holds one of the points compared, so that no more regions are
covered than there are.  The bound holds for every scripted geometry as well, also where points
are placed in regions that it does not declare. -/
theorem comparison_within_model (config : Config) :
    (∀ scene : Scene,
      (∀ {σ : Type} [PointSource σ] (source : σ) region,
        (runComparison scene.resolver scene.namer config source).result
          ≠ .error (.unnamedRegion region)) ∧
      (config.outside = .tally → ∀ trace : MemoryTrace,
        (runComparison scene.resolver scene.namer config trace).result
          = .ok (takenOf config trace.declared trace.points.length)) ∧
      ∀ points c, Reachable scene.resolver scene.namer config points c →
        (∀ region ∈ c.statistics.covered.keys, ∃ r ∈ scene.regions, r.id = region ∧
          ∃ p ∈ points, r.shape.contains p.position = true) ∧
        c.statistics.totalRegions = scene.regions.length ∧
        c.statistics.covered.size ≤ c.statistics.totalRegions) ∧
    ∀ (g : ScriptedGeometry) points c, Reachable g.resolver g.namer config points c →
      c.statistics.totalRegions = g.names.size ∧
      c.statistics.covered.size ≤ c.statistics.totalRegions := by
  refine ⟨fun scene => ⟨fun source region => Scene.run_ne_unnamed rfl rfl source, ?_, ?_⟩, ?_⟩
  · intro tallied trace
    have accepted : ∀ points, (initial scene.resolver scene.namer config).Accepts points :=
      fun points => accepts_iff.2 fun p _ => Scene.admits_of_tally tallied p
    exact (run_of_exhausted (MemoryTrace.yields_points _ _)
      ((MemoryTrace.answer_eq _ _ _).trans (by rw [List.getElem?_length])) (accepted _)).1
  · intro points c h
    refine ⟨fun region covered => Scene.exists_of_covered h covered, h.totalRegions, ?_⟩
    rw [h.totalRegions]
    exact Scene.size_covered_le h
  · intro g points c h
    refine ⟨h.totalRegions, ?_⟩
    rw [h.totalRegions]
    exact ScriptedGeometry.size_covered_le h

/-- A scene of one box, a point in it and a point whose coordinate is no number: both are taken,
and a history that has met the first one covers the one region. -/
theorem comparison_within_model_in_box :
    let box : Box Binary64 :=
      ⟨⟨.zero, .zero, .zero⟩, ⟨.ofInt 1, .ofInt 1, .ofInt 1⟩⟩
    ∃ scene : Scene, scene.regions = [⟨⟨7⟩, "water", .box box⟩] ∧
      (runComparison scene.resolver scene.namer ⟨⟨1⟩, none, .tally⟩ (MemoryTrace.ofPoints
        [visit 0, ⟨⟨.nan, .zero, .zero⟩, ⟨1⟩, .zero, 0⟩])).result = .ok 2 ∧
      ∀ points c, Reachable scene.resolver scene.namer ⟨⟨1⟩, none, .tally⟩ points c →
        c.statistics.covered.size ≤ 1 := by
  intro box
  have faultless : firstFault? [] [⟨⟨7⟩, "water", .box box⟩] = none := by decide +kernel
  obtain ⟨inScenes, _⟩ := comparison_within_model ⟨⟨1⟩, none, .tally⟩
  obtain ⟨_, taken, covered⟩ := inScenes ⟨_, faultless⟩
  refine ⟨⟨_, faultless⟩, rfl, taken rfl _, fun points c h => ?_⟩
  obtain ⟨_, total, bound⟩ := covered points c h
  rw [total] at bound
  exact bound

end Both

end Concordance
