import Concordance.Scene.Basic
import Mathlib.Data.List.Nodup
import Mathlib.Tactic.Lemma

/-!
# The queries of a scene agree

A scene is asked for the first region at a position and for the region with an identifier.  The
second answer is found by looking for the identifier, so it is the region that the first one came
from only because identifiers are not repeated, which is what the check of a scene is for.

* `firstFault?_cons_eq_none_iff` reads the check region by region.
* `Scene.region?_id` finds each region by its identifier.
* `Scene.regionAt?_eq_some` says what the region at a position is, and
  `Scene.composition?_of_regionAt?` that it has a composition.
-/

namespace Concordance

/-! ## The check -/

lemma firstFault?_cons_eq_none_iff {earlier : List RegionId} {region : Region}
    {rest : List Region} :
    firstFault? earlier (region :: rest) = none ↔
      region.fault? earlier = none ∧ firstFault? (region.id :: earlier) rest = none := by
  rw [firstFault?]
  cases region.fault? earlier <;> simp

lemma Region.fault?_eq_none_iff {earlier : List RegionId} {region : Region} :
    region.fault? earlier = none ↔
      region.id.isOutside = false ∧ region.shape.fault? = none ∧ region.id ∉ earlier := by
  rw [Region.fault?]
  cases region.id.isOutside <;> cases region.shape.fault? <;> simp

/-- Checked regions have identifiers that differ from each other and from the earlier ones. -/
lemma nodup_of_firstFault?_eq_none {earlier : List RegionId} {regions : List Region}
    (faultless : firstFault? earlier regions = none) :
    (regions.map (·.id)).Nodup ∧ ∀ region ∈ regions, region.id ∉ earlier := by
  induction regions generalizing earlier with
  | nil => simp
  | cons region rest ih =>
      obtain ⟨first, later⟩ := firstFault?_cons_eq_none_iff.1 faultless
      obtain ⟨distinct, apart⟩ := ih later
      refine ⟨?_, ?_⟩
      · rw [List.map_cons, List.nodup_cons]
        refine ⟨fun repeated => ?_, distinct⟩
        obtain ⟨other, member, same⟩ := List.mem_map.1 repeated
        exact apart other member (same ▸ List.mem_cons_self)
      · intro other member
        rcases List.mem_cons.1 member with rfl | member
        · exact (Region.fault?_eq_none_iff.1 first).2.2
        · exact fun known => apart other member (List.mem_cons_of_mem _ known)

namespace Scene

variable {scene : Scene} {region : Region} {p : Position}

/-- The scene of a list holds that list. -/
lemma ofRegions_eq_ok_iff {regions : List Region} :
    ofRegions regions = .ok scene ↔ scene.regions = regions := by
  unfold ofRegions
  constructor
  · intro h
    split at h
    · cases h
    · cases h
      rfl
  · rintro rfl
    split
    · rename_i fault found
      cases found.symm.trans scene.faultless
    · rfl

lemma nodup_ids (scene : Scene) : (scene.regions.map (·.id)).Nodup :=
  (nodup_of_firstFault?_eq_none scene.faultless).1

/-! ## The queries -/

/-- **Each region is the one with its identifier.** -/
theorem region?_id (member : region ∈ scene.regions) : scene.region? region.id = some region := by
  have known : (scene.region? region.id).isSome = true := by
    rw [region?, List.find?_isSome]
    exact ⟨region, member, beq_self_eq_true region.id⟩
  obtain ⟨other, found⟩ := Option.isSome_iff_exists.1 known
  have same : other.id = region.id := by
    have matched := List.find?_some found
    simpa using matched
  have alike : other = region :=
    List.inj_on_of_nodup_map scene.nodup_ids (List.mem_of_find?_eq_some found) member same
  rw [found, alike]

/-- The region at a position contains it. -/
lemma regionAt?_eq_some (found : scene.regionAt? p = some region) :
    region ∈ scene.regions ∧ region.shape.contains p = true := by
  have contained := List.find?_some found
  exact ⟨List.mem_of_find?_eq_some found, contained⟩

/-- A resolved region is known by its identifier: what names it finds the region that was
resolved. -/
lemma composition?_of_regionAt? (found : scene.regionAt? p = some region) :
    scene.namer.composition? (scene.resolver.regionAt p) = some region.composition := by
  have resolved : scene.resolver.regionAt p = region.id := by
    simp only [resolver, found]
  rw [resolved, namer]
  simp only [region?_id (regionAt?_eq_some found).1, Option.map_some]

lemma regionAt_of_none (h : scene.regionAt? p = none) :
    scene.resolver.regionAt p = .outside := by
  simp only [resolver, h]

end Scene
end Concordance
