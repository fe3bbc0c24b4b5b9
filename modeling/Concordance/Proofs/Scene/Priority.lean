import Concordance.Proofs.Scene.Validation

/-!
# Priority of regions, and what the three queries say of one region

A position belongs to the first region in the list whose shape contains it, and the other two
queries are asked with the identifier that came out.  They speak of the same region because a
scene has no identifier twice, and what is outside is told from a region by its sign because a
scene has no negative identifier.

* `regionAt?_eq_none_iff` and `regionAt?_eq_some_iff` are the two answers of the search, and
  `isOutside_regionAt` tells them apart by the identifier alone.
* `describes_of_mem` is what the namer says of a region, `describes_nothing` what it says where
  there is none.
* `regionAt_append` takes a scene apart between two of its regions.
* `Resolves` and `resolution_coheres` are the account of the whole.
-/

namespace Concordance
namespace Scene

variable {scene : Scene} {regions front back : List Region} {region : Region} {p : Position}

/-! ## The search -/

lemma regionAt?_eq_none_iff :
    scene.regionAt? p = none ↔ ∀ region ∈ scene.regions, region.shape.contains p = false := by
  simp [regionAt?]

lemma regionAt?_eq_some_iff : scene.regionAt? p = some region ↔
    region.shape.contains p = true ∧ ∃ i : Nat, scene.regions[i]? = some region ∧
      ∀ (j : Nat) (other : Region), j < i → scene.regions[j]? = some other →
        other.shape.contains p = false := by
  rw [regionAt?, List.find?_eq_some_iff_getElem]
  refine and_congr_right fun _ => ?_
  constructor
  · rintro ⟨i, inside, here, first⟩
    refine ⟨i, List.getElem?_eq_some_iff.2 ⟨inside, here⟩, fun j other before there => ?_⟩
    obtain ⟨_, rfl⟩ := List.getElem?_eq_some_iff.1 there
    simpa using first j before
  · rintro ⟨i, found, first⟩
    obtain ⟨inside, here⟩ := List.getElem?_eq_some_iff.1 found
    refine ⟨i, inside, here, fun j before => ?_⟩
    simpa using first j _ before (List.getElem?_eq_getElem (Nat.lt_trans before inside))

lemma admissible_regions (scene : Scene) : Admissible scene.regions :=
  (firstFault?_eq_none_iff.1 scene.faultless).1

/-- **A position is resolved to a negative identifier exactly if no region contains it.** -/
theorem isOutside_regionAt :
    (scene.resolver.regionAt p).isOutside = true ↔ scene.regionAt? p = none := by
  cases found : scene.regionAt? p with
  | none =>
      rw [regionAt_of_none found]
      decide
  | some region =>
      have notNegative := scene.admissible_regions.notNegative _ (regionAt?_eq_some found).1
      simp only [resolver, found]
      simpa using Region.isOutside_eq_false_iff.2 notNegative

lemma regionAt_of_some (found : scene.regionAt? p = some region) :
    scene.resolver.regionAt p = region.id := by
  simp only [resolver, found]

/-! ## The descriptions -/

/-- The namer describes a region of the list, whichever way its identifier was found. -/
lemma describes_of_mem (member : region ∈ scene.regions) :
    scene.namer.composition? region.id = some region.composition ∧
      ∀ q, scene.namer.surfaceDistance q region.id = region.shape.surfaceDistance q := by
  simp [namer, region?_id member]

/-- An identifier without region has no composition, and nothing is close to it. -/
lemma describes_nothing {id : RegionId} (unknown : ∀ region ∈ scene.regions, region.id ≠ id) :
    scene.namer.composition? id = none ∧
      ∀ q, scene.namer.surfaceDistance q id = .infinity := by
  have missing : scene.region? id = none := by
    rw [Option.eq_none_iff_forall_ne_some]
    intro region found
    obtain ⟨member, same⟩ := region?_eq_some_iff.1 found
    exact unknown region member same
  simp [namer, missing]

/-! ## Two lists in a row -/

lemma admissible_append (admissible : Admissible (front ++ back)) :
    Admissible front ∧ Admissible back := by
  obtain ⟨notNegative, distinct, proper⟩ := admissible
  obtain ⟨first, second, _⟩ := List.pairwise_append.1 distinct
  rw [List.forall_mem_append] at notNegative proper
  exact ⟨⟨notNegative.1, first, proper.1⟩, ⟨notNegative.2, second, proper.2⟩⟩

lemma exists_of_admissible (admissible : Admissible regions) :
    ∃ scene, ofRegions regions = .ok scene := by
  rw [exists_ofRegions_eq_ok_iff, firstFault?_eq_none_iff]
  simp [admissible]

/-- **Behind a list, only what is outside of it is resolved.** -/
lemma regionAt_append {first second : Scene}
    (whole : scene.regions = first.regions ++ second.regions) (p : Position) :
    scene.resolver.regionAt p = if ∃ region ∈ first.regions, region.shape.contains p = true
      then first.resolver.regionAt p else second.resolver.regionAt p := by
  have search : scene.regionAt? p = (first.regionAt? p).or (second.regionAt? p) := by
    rw [regionAt?, whole, List.find?_append, regionAt?, regionAt?]
  cases found : first.regionAt? p with
  | none =>
      have outside : ¬ ∃ region ∈ first.regions, region.shape.contains p = true := by
        rintro ⟨region, member, inside⟩
        rw [regionAt?_eq_none_iff.1 found region member] at inside
        cases inside
      rw [if_neg outside]
      simp only [resolver, search, found, Option.none_or]
  | some region =>
      rw [if_pos ⟨region, regionAt?_eq_some found⟩]
      simp only [resolver, search, found, Option.some_or]

/-! ## The account -/

/-- What the queries of the scene of a list answer. -/
structure Resolves (regions : List Region) (scene : Scene) : Prop where
  /-- Only what no region contains is outside. -/
  outside_iff : ∀ p, (scene.resolver.regionAt p).isOutside = true ↔
    ∀ region ∈ regions, region.shape.contains p = false
  /-- What is not outside belongs to the first region that contains it, and this is the region
  that its identifier describes. -/
  inside : ∀ p, (scene.resolver.regionAt p).isOutside = false →
    ∃ (i : Nat) (region : Region), regions[i]? = some region ∧
      region.shape.contains p = true ∧
      (∀ (j : Nat) (other : Region), j < i → regions[j]? = some other →
        other.shape.contains p = false) ∧
      scene.resolver.regionAt p = region.id ∧
      scene.namer.composition? region.id = some region.composition ∧
      scene.namer.surfaceDistance p region.id = region.shape.surfaceDistance p
  /-- Other identifiers describe nothing. -/
  unknown : ∀ id, (∀ region ∈ regions, region.id ≠ id) →
    scene.namer.composition? id = none ∧ ∀ p, scene.namer.surfaceDistance p id = .infinity
  /-- Taken apart anywhere, the list makes two scenes, and the second one is asked only where
  the first one has no region. -/
  parts : ∀ front back, regions = front ++ back → ∃ first second,
    ofRegions front = .ok first ∧ ofRegions back = .ok second ∧
    ∀ p, scene.resolver.regionAt p = if ∃ region ∈ front, region.shape.contains p = true
      then first.resolver.regionAt p else second.resolver.regionAt p

/-- **Resolution goes by priority, and the queries of a scene agree.** -/
theorem resolution_coheres {regions : List Region} {scene : Scene}
    (accepted : ofRegions regions = .ok scene) : Resolves regions scene := by
  obtain rfl := ofRegions_eq_ok_iff.1 accepted
  refine ⟨fun p => ?_, fun p inside => ?_, fun id => describes_nothing, ?_⟩
  · rw [isOutside_regionAt, regionAt?_eq_none_iff]
  · cases found : scene.regionAt? p with
    | none =>
        rw [isOutside_regionAt.2 found] at inside
        cases inside
    | some region =>
        obtain ⟨contained, i, here, first⟩ := regionAt?_eq_some_iff.1 found
        obtain ⟨composition, distance⟩ := describes_of_mem (regionAt?_eq_some found).1
        exact ⟨i, region, here, contained, first, regionAt_of_some found, composition, distance p⟩
  · intro front back whole
    obtain ⟨front_admissible, back_admissible⟩ :=
      admissible_append (whole ▸ scene.admissible_regions)
    obtain ⟨first, madeFirst⟩ := exists_of_admissible front_admissible
    obtain ⟨second, madeSecond⟩ := exists_of_admissible back_admissible
    refine ⟨first, second, madeFirst, madeSecond, fun p => ?_⟩
    obtain rfl := ofRegions_eq_ok_iff.1 madeFirst
    obtain rfl := ofRegions_eq_ok_iff.1 madeSecond
    exact regionAt_append whole p

/-- Two balls about one centre, the smaller one first: the centre is in both and belongs to the
first one, and what only the larger ball contains belongs to the second. -/
theorem resolution_coheres_in_balls :
    let ball (id : Int64) (composition : String) (radius : Int) : Region :=
      ⟨⟨id⟩, composition, .sphere ⟨.zero, .zero, .zero⟩ (.ofInt radius)⟩
    let centre : Position := ⟨.zero, .zero, .zero⟩
    ∃ scene, ofRegions [ball 7 "fuel" 1, ball 3 "water" 2] = .ok scene ∧
      Resolves [ball 7 "fuel" 1, ball 3 "water" 2] scene ∧
      (∀ region ∈ [ball 7 "fuel" 1, ball 3 "water" 2], region.shape.contains centre = true) ∧
      scene.resolver.regionAt centre = ⟨7⟩ ∧
      scene.resolver.regionAt ⟨.ofInt 2, .zero, .zero⟩ = ⟨3⟩ ∧
      (scene.resolver.regionAt ⟨.ofInt 3, .zero, .zero⟩).isOutside = true ∧
      scene.namer.composition? ⟨5⟩ = none := by
  intro ball centre
  let scene : Scene := ⟨[ball 7 "fuel" 1, ball 3 "water" 2], by decide +kernel⟩
  have accepted : ofRegions [ball 7 "fuel" 1, ball 3 "water" 2] = .ok scene :=
    ofRegions_eq_ok_iff.2 rfl
  have coheres := resolution_coheres accepted
  have inner : scene.regionAt? centre = some (ball 7 "fuel" 1) := by decide +kernel
  have outer : scene.regionAt? ⟨.ofInt 2, .zero, .zero⟩ = some (ball 3 "water" 2) := by
    decide +kernel
  have beyond : ∀ region ∈ [ball 7 "fuel" 1, ball 3 "water" 2],
      region.shape.contains ⟨.ofInt 3, .zero, .zero⟩ = false := by decide +kernel
  exact ⟨scene, accepted, coheres, by decide +kernel, regionAt_of_some inner,
    regionAt_of_some outer, (coheres.outside_iff _).2 beyond,
    (coheres.unknown ⟨5⟩ (by simp [ball])).1⟩

end Scene
end Concordance
