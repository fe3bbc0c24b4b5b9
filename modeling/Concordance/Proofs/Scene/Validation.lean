import Concordance.Proofs.OrderedMap
import Concordance.Proofs.Scene.Queries

/-!
# Which lists of regions are scenes

The check of a list goes from region to region and ends at the first fault.  Here it is told
without its order: what all regions of a scene have in common, and which region is to blame when
there is no scene.

* `Admissible` is what a list has to be.  `Region.Blame` is the fault of one region behind others,
  where a negative identifier goes before a shape without inside, and that before an identifier
  that is known.  `FirstBlame` is the blame of the first region that has one.
* `firstFault?_eq_none_iff` and `firstFault?_eq_some_iff` tie the check to them.  Both are
  inductions on the list, and the identifiers that are known are those of the regions before.
* `places` is the check as a loop over a table of places by identifier.  It has the same faults
  (`placesFrom_eq_error_iff`), and the place of an identifier is that of its region
  (`get?_placesFrom`), so no place is beyond the list.
* `ofRegions_spec` is the account of the whole.
-/

namespace Concordance

/-! ## Shapes -/

namespace Shape

/-- A box whose lower corner is below the upper one on every axis, or a sphere with a positive
radius. -/
def IsProper : Shape → Prop
  | .box b => b.lower.x.lt b.upper.x = true ∧ b.lower.y.lt b.upper.y = true ∧
      b.lower.z.lt b.upper.z = true
  | .sphere _ radius => Binary64.zero.lt radius = true

/-- What is said of a shape that is not proper. -/
def defect : Shape → ShapeFault
  | .box b => .improperBox b
  | .sphere _ radius => .improperRadius radius

/-- The numbers that are compared to tell whether a shape is proper. -/
def bounds : Shape → List Binary64
  | .box b => b.lower.toList ++ b.upper.toList
  | .sphere _ radius => [radius]

variable {shape : Shape} {fault : ShapeFault}

lemma fault?_eq_none_iff : shape.fault? = none ↔ shape.IsProper := by
  cases shape with
  | box b => simp [fault?, IsProper, Box.isProper, Scalar.lt, and_assoc]
  | sphere center radius => simp [fault?, IsProper]

lemma fault?_eq_some_iff : shape.fault? = some fault ↔ ¬ shape.IsProper ∧ fault = shape.defect := by
  rw [← fault?_eq_none_iff]
  cases shape with
  | box b => cases proper : b.isProper <;> simp [fault?, defect, proper, eq_comm]
  | sphere center radius =>
      cases proper : Binary64.zero.lt radius <;> simp [fault?, defect, proper, eq_comm]

instance (shape : Shape) : Decidable shape.IsProper :=
  decidable_of_iff (shape.fault? = none) fault?_eq_none_iff

/-- What is not a number is not below or above anything. -/
lemma isNaN_of_mem_bounds (proper : shape.IsProper) : ∀ x ∈ shape.bounds, x.isNaN = false := by
  cases shape with
  | box b =>
      simp only [IsProper, Binary64.lt, Bool.and_eq_true, Bool.not_eq_true'] at proper
      simp [bounds, Point.toList, proper]
  | sphere center radius =>
      simp only [IsProper, Binary64.lt, Bool.and_eq_true, Bool.not_eq_true'] at proper
      simp [bounds, proper]

end Shape

/-! ## Regions behind others -/

namespace Region

/-- A region that may stand behind others. -/
structure Fits (earlier : List Region) (region : Region) : Prop where
  notNegative : 0 ≤ region.id.value.toInt
  proper : region.shape.IsProper
  fresh : ∀ other ∈ earlier, other.id ≠ region.id

/-- The fault of a region that may not stand behind others. -/
inductive Blame (earlier : List Region) (region : Region) : SceneFault → Prop
  | negative (below : region.id.value.toInt < 0) : Blame earlier region (.negative region.id)
  | degenerate (notNegative : 0 ≤ region.id.value.toInt) (improper : ¬ region.shape.IsProper) :
      Blame earlier region (.degenerate region.id region.shape.defect)
  | duplicate (notNegative : 0 ≤ region.id.value.toInt) (proper : region.shape.IsProper)
      (known : ∃ other ∈ earlier, other.id = region.id) :
      Blame earlier region (.duplicate region.id)

lemma isOutside_eq_false_iff {id : RegionId} : id.isOutside = false ↔ 0 ≤ id.value.toInt := by
  rw [RegionId.isOutside, decide_eq_false_iff_not, Int.not_lt]

variable {known : List RegionId} {earlier : List Region} {region : Region} {fault : SceneFault}

lemma fault?_eq_none_iff_fits (same : ∀ id, id ∈ known ↔ ∃ other ∈ earlier, other.id = id) :
    region.fault? known = none ↔ region.Fits earlier := by
  rw [fault?_eq_none_iff, isOutside_eq_false_iff, Shape.fault?_eq_none_iff, same]
  constructor
  · rintro ⟨notNegative, proper, fresh⟩
    exact ⟨notNegative, proper, fun other member alike => fresh ⟨other, member, alike⟩⟩
  · rintro ⟨notNegative, proper, fresh⟩
    exact ⟨notNegative, proper, fun ⟨other, member, alike⟩ => fresh other member alike⟩

lemma fault?_eq_some_iff (same : ∀ id, id ∈ known ↔ ∃ other ∈ earlier, other.id = id) :
    region.fault? known = some fault ↔ region.Blame earlier fault := by
  rw [fault?]
  constructor
  · intro found
    split at found
    · rename_i below
      cases found
      exact .negative (of_decide_eq_true below)
    rename_i below
    have notNegative := isOutside_eq_false_iff.1 (by simpa using below)
    split at found
    · rename_i shapeFault wrong
      obtain ⟨improper, rfl⟩ := Shape.fault?_eq_some_iff.1 wrong
      cases found
      exact .degenerate notNegative improper
    · rename_i right
      split at found
      · rename_i repeated
        cases found
        exact .duplicate notNegative (Shape.fault?_eq_none_iff.1 right) ((same _).1 repeated)
      · cases found
  · rintro (below | ⟨notNegative, improper⟩ | ⟨notNegative, proper, repeated⟩)
    · exact if_pos (decide_eq_true below)
    · rw [isOutside_eq_false_iff.2 notNegative, Shape.fault?_eq_some_iff.2 ⟨improper, rfl⟩]
      rfl
    · rw [isOutside_eq_false_iff.2 notNegative, Shape.fault?_eq_none_iff.2 proper]
      exact if_pos ((same _).2 repeated)

end Region

/-! ## Lists -/

/-- What a list of regions has to be for a scene. -/
structure Admissible (regions : List Region) : Prop where
  notNegative : ∀ region ∈ regions, 0 ≤ region.id.value.toInt
  distinct : regions.Pairwise fun region other => region.id ≠ other.id
  proper : ∀ region ∈ regions, region.shape.IsProper

/-- The fault of the first region at fault, in a list that stands behind other regions. -/
def FirstBlame (earlier regions : List Region) (fault : SceneFault) : Prop :=
  ∃ (i : Nat) (region : Region), regions[i]? = some region ∧
    region.Blame (earlier ++ regions.take i) fault ∧
    ∀ (j : Nat) (other : Region), j < i → regions[j]? = some other →
      other.Fits (earlier ++ regions.take j)

section

variable {known : List RegionId} {earlier regions rest : List Region} {region : Region}
  {fault : SceneFault}

/-- The identifiers that are known behind one more region. -/
lemma mem_known_cons (same : ∀ id, id ∈ known ↔ ∃ other ∈ earlier, other.id = id) (id : RegionId) :
    id ∈ region.id :: known ↔ ∃ other ∈ earlier ++ [region], other.id = id := by
  rw [List.mem_cons, same]
  simp only [List.mem_append, List.mem_singleton, or_and_right, exists_or, exists_eq_left]
  exact or_comm.trans (or_congr_right eq_comm)

/-- The first region at fault is the one at the head, or it is behind it. -/
lemma firstBlame_cons_iff : FirstBlame earlier (region :: rest) fault ↔
    region.Blame earlier fault ∨
      region.Fits earlier ∧ FirstBlame (earlier ++ [region]) rest fault := by
  constructor
  · rintro ⟨i, other, place, blame, first⟩
    cases i with
    | zero =>
        obtain rfl : region = other := by simpa using place
        exact .inl (by simpa using blame)
    | succ i =>
        have fits := first 0 region (Nat.succ_pos i) rfl
        refine .inr ⟨by simpa using fits, i, other, by simpa using place, by simpa using blame, ?_⟩
        intro j third before there
        simpa using first (j + 1) third (Nat.succ_lt_succ before) (by simpa using there)
  · rintro (blame | ⟨fits, i, other, place, blame, first⟩)
    · exact ⟨0, region, rfl, by simpa using blame, fun j _ before => absurd before j.not_lt_zero⟩
    · refine ⟨i + 1, other, by simpa using place, by simpa using blame, fun j third before => ?_⟩
      intro there
      cases j with
      | zero =>
          obtain rfl : region = third := by simpa using there
          simpa using fits
      | succ j =>
          simpa using first j third (Nat.lt_of_succ_lt_succ before) (by simpa using there)

/-- **The check ends at the first region at fault.** -/
theorem firstFault?_eq_some_iff (same : ∀ id, id ∈ known ↔ ∃ other ∈ earlier, other.id = id) :
    firstFault? known regions = some fault ↔ FirstBlame earlier regions fault := by
  induction regions generalizing known earlier with
  | nil => simp [firstFault?, FirstBlame]
  | cons region rest ih =>
      rw [firstFault?, firstBlame_cons_iff, ← Region.fault?_eq_some_iff same,
        ← Region.fault?_eq_none_iff_fits same, ← ih (mem_known_cons same)]
      cases region.fault? known <;> simp

lemma admissible_cons_iff : Admissible (region :: rest) ↔
    (0 ≤ region.id.value.toInt ∧ region.shape.IsProper ∧ ∀ other ∈ rest, region.id ≠ other.id) ∧
      Admissible rest := by
  constructor
  · rintro ⟨notNegative, distinct, proper⟩
    obtain ⟨fresh, distinct⟩ := List.pairwise_cons.1 distinct
    obtain ⟨first, notNegative⟩ := List.forall_mem_cons.1 notNegative
    obtain ⟨shape, proper⟩ := List.forall_mem_cons.1 proper
    exact ⟨⟨first, shape, fresh⟩, notNegative, distinct, proper⟩
  · rintro ⟨⟨first, shape, fresh⟩, notNegative, distinct, proper⟩
    exact ⟨List.forall_mem_cons.2 ⟨first, notNegative⟩, List.pairwise_cons.2 ⟨fresh, distinct⟩,
      List.forall_mem_cons.2 ⟨shape, proper⟩⟩

/-- **The check passes over admissible lists** whose identifiers are not known. -/
theorem firstFault?_eq_none_iff : firstFault? known regions = none ↔
    Admissible regions ∧ ∀ region ∈ regions, region.id ∉ known := by
  induction regions generalizing known with
  | nil => simp [firstFault?, Admissible.mk]
  | cons region rest ih =>
      rw [firstFault?_cons_eq_none_iff, Region.fault?_eq_none_iff, ih, admissible_cons_iff,
        Region.isOutside_eq_false_iff, Shape.fault?_eq_none_iff, List.forall_mem_cons]
      -- the head is known to what stands behind it
      simp only [List.mem_cons, not_or, forall_and, ne_comm (a := region.id)]
      tauto

end

namespace Scene

/-! ## The table of places -/

/-- Enters a region that is not at fault into a table of places by identifier. -/
def enter (table : OrderedMap RegionId Nat) (place : Nat) (region : Region) :
    Except SceneFault (OrderedMap RegionId Nat) :=
  match region.fault? table.keys with
  | some fault => .error fault
  | none => .ok (table.insert region.id place)

/-- Enters one region after the other, from a given place on. -/
def placesFrom (table : OrderedMap RegionId Nat) (place : Nat) :
    List Region → Except SceneFault (OrderedMap RegionId Nat)
  | [] => .ok table
  | region :: rest => (enter table place region).bind fun table => placesFrom table (place + 1) rest

/-- The check of a list with a table of places. -/
def places (regions : List Region) : Except SceneFault (OrderedMap RegionId Nat) :=
  placesFrom .empty 0 regions

section

variable {known : List RegionId} {table final : OrderedMap RegionId Nat} {place : Nat}
  {regions : List Region} {region : Region} {fault : SceneFault}

/-- Only what is known matters to a fault. -/
lemma fault?_congr {others : List RegionId} (same : ∀ id, id ∈ known ↔ id ∈ others) :
    region.fault? known = region.fault? others := by
  simp only [Region.fault?, same]

/-- **With a table or without one, the check finds the same fault.** -/
lemma placesFrom_eq_error_iff (same : ∀ id, id ∈ table.keys ↔ id ∈ known) :
    placesFrom table place regions = .error fault ↔ firstFault? known regions = some fault := by
  induction regions generalizing table known place with
  | nil => simp [placesFrom, firstFault?]
  | cons region rest ih =>
      rw [placesFrom, enter, firstFault?, fault?_congr same]
      cases region.fault? known with
      | some first => simp [Except.bind]
      | none =>
          refine ih fun id => ?_
          rw [OrderedMap.mem_keys_insert, List.mem_cons, same]

/-- A region that is entered is found at its place, and every other one where it was. -/
lemma get?_enter (entered : enter table place region = .ok final) (id : RegionId) (i : Nat) :
    final.get? id = some i ↔ table.get? id = some i ∨ region.id = id ∧ place = i := by
  rw [enter] at entered
  split at entered
  · cases entered
  rename_i right
  cases entered
  have fresh : ∀ value, table.get? region.id ≠ some value := fun value bound =>
    (Region.fault?_eq_none_iff.1 right).2.2 (OrderedMap.mem_keys_iff.2 ⟨value, bound⟩)
  by_cases same : region.id = id
  · subst same
    simp [fresh]
  · simp [OrderedMap.get?_insert_of_ne table same, same]

/-- **Each identifier is entered with the place of its region.** -/
lemma get?_placesFrom (entered : placesFrom table place regions = .ok final) (id : RegionId)
    (i : Nat) : final.get? id = some i ↔ table.get? id = some i ∨ ∃ (j : Nat) (region : Region),
      regions[j]? = some region ∧ region.id = id ∧ place + j = i := by
  induction regions generalizing table place with
  | nil =>
      cases entered
      simp
  | cons region rest ih =>
      rw [placesFrom] at entered
      cases first : enter table place region with
      | error fault =>
          rw [first] at entered
          cases entered
      | ok next =>
          rw [first] at entered
          rw [ih entered, get?_enter first, or_assoc]
          refine or_congr_right ?_
          constructor
          · rintro (⟨same, rfl⟩ | ⟨j, other, there, same, rfl⟩)
            · exact ⟨0, region, rfl, same, rfl⟩
            · exact ⟨j + 1, other, there, same, by omega⟩
          · rintro ⟨j, other, there, same, rfl⟩
            cases j with
            | zero =>
                obtain rfl : region = other := by simpa using there
                exact .inl ⟨same, rfl⟩
            | succ j => exact .inr ⟨j, other, by simpa using there, same, by omega⟩

end

section

variable {regions : List Region} {table : OrderedMap RegionId Nat} {scene : Scene}

/-- The table of a list that is a scene. -/
lemma exists_places (scene : Scene) : ∃ table, places scene.regions = .ok table := by
  cases entered : places scene.regions with
  | ok table => exact ⟨table, rfl⟩
  | error fault =>
      have found := (placesFrom_eq_error_iff fun _ => Iff.rfl).1 entered
      rw [OrderedMap.keys_empty, scene.faultless] at found
      cases found

lemma get?_places (entered : places regions = .ok table) (id : RegionId) (i : Nat) :
    table.get? id = some i ↔ ∃ region : Region, regions[i]? = some region ∧ region.id = id := by
  rw [get?_placesFrom entered, OrderedMap.get?_empty]
  simp

lemma region?_eq_some_iff {id : RegionId} {region : Region} :
    scene.region? id = some region ↔ region ∈ scene.regions ∧ region.id = id := by
  constructor
  · intro found
    have same := List.find?_some found
    exact ⟨List.mem_of_find?_eq_some found, by simpa using same⟩
  · rintro ⟨member, rfl⟩
    exact region?_id member

/-- **What the table leads to is what a search of the list finds.** -/
lemma region?_eq_bind (entered : places scene.regions = .ok table) (id : RegionId) :
    scene.region? id = (table.get? id).bind fun i => scene.regions[i]? := by
  ext region
  rw [region?_eq_some_iff, List.mem_iff_getElem?]
  simp only [Option.bind_eq_some_iff, get?_places entered]
  constructor
  · rintro ⟨⟨i, there⟩, same⟩
    exact ⟨i, ⟨region, there, same⟩, there⟩
  · rintro ⟨i, ⟨other, there, same⟩, found⟩
    rw [there] at found
    cases found
    exact ⟨⟨i, there⟩, same⟩

/-- Regions with one identifier stand at one place. -/
lemma place_unique (scene : Scene) {i j : Nat} {region other : Region}
    (here : scene.regions[i]? = some region) (there : scene.regions[j]? = some other)
    (same : other.id = region.id) : j = i := by
  have listed : (scene.regions.map (·.id))[j]? = (scene.regions.map (·.id))[i]? := by
    rw [List.getElem?_map, List.getElem?_map, here, there, Option.map_some, Option.map_some, same]
  have inside : j < (scene.regions.map (·.id)).length := by
    rw [List.length_map]
    exact (List.getElem?_eq_some_iff.1 there).1
  exact (List.getElem?_inj inside scene.nodup_ids).1 listed

end

/-! ## The account -/

/-- What a scene holds that was made of a list of regions. -/
structure Holds (regions : List Region) (scene : Scene) : Prop where
  /-- It holds the list as it is. -/
  regions_eq : scene.regions = regions
  /-- An identifier finds the one region of the list that has it. -/
  region?_iff : ∀ (id : RegionId) (region : Region), scene.region? id = some region ↔
    ∃ i : Nat, regions[i]? = some region ∧ region.id = id ∧
      ∀ (j : Nat) (other : Region), regions[j]? = some other → other.id = id → j = i
  /-- The table finds the same, at places in the list. -/
  table : ∃ table, places regions = .ok table ∧
    (∀ id, scene.region? id = (table.get? id).bind fun i => regions[i]?) ∧
    ∀ id i, table.get? id = some i → i < regions.length

lemma holds_regions (scene : Scene) : Holds scene.regions scene where
  regions_eq := rfl
  region?_iff id region := by
    rw [region?_eq_some_iff, List.mem_iff_getElem?]
    constructor
    · rintro ⟨⟨i, here⟩, rfl⟩
      exact ⟨i, here, rfl, fun j other there same => place_unique scene here there same⟩
    · rintro ⟨i, here, same, _⟩
      exact ⟨⟨i, here⟩, same⟩
  table := by
    obtain ⟨table, entered⟩ := exists_places scene
    refine ⟨table, entered, region?_eq_bind entered, fun id i bound => ?_⟩
    obtain ⟨region, there, _⟩ := (get?_places entered id i).1 bound
    exact (List.getElem?_eq_some_iff.1 there).1

lemma ofRegions_eq_error_iff {regions : List Region} {fault : SceneFault} :
    ofRegions regions = .error fault ↔ firstFault? [] regions = some fault := by
  unfold ofRegions
  split <;> rename_i found <;> simp [found]

lemma exists_ofRegions_eq_ok_iff {regions : List Region} :
    (∃ scene, ofRegions regions = .ok scene) ↔ firstFault? [] regions = none := by
  constructor
  · rintro ⟨scene, accepted⟩
    rw [← ofRegions_eq_ok_iff.1 accepted]
    exact scene.faultless
  · intro faultless
    exact ⟨⟨regions, faultless⟩, ofRegions_eq_ok_iff.2 rfl⟩

/-- **The lists that are scenes, and what is wrong with the others.**  A list is a scene exactly
if it is admissible, and then no number that bounds a box and no radius is a NaN.  Otherwise the
fault is that of the first region that has one, and the table finds the same one.  A scene holds
its list, with one region for each identifier. -/
theorem ofRegions_spec (regions : List Region) :
    ((∃ scene, ofRegions regions = .ok scene) ↔ Admissible regions) ∧
    (Admissible regions → ∀ region ∈ regions, ∀ x ∈ region.shape.bounds, x.isNaN = false) ∧
    (∀ fault, ofRegions regions = .error fault ↔ FirstBlame [] regions fault) ∧
    (∀ fault, places regions = .error fault ↔ ofRegions regions = .error fault) ∧
    ∀ scene, ofRegions regions = .ok scene → Holds regions scene := by
  refine ⟨?_, fun admissible region member => ?_, fun fault => ?_, fun fault => ?_, ?_⟩
  · rw [exists_ofRegions_eq_ok_iff, firstFault?_eq_none_iff]
    simp
  · exact Shape.isNaN_of_mem_bounds (admissible.proper region member)
  · rw [ofRegions_eq_error_iff]
    exact firstFault?_eq_some_iff (by simp)
  · rw [ofRegions_eq_error_iff]
    exact placesFrom_eq_error_iff (by simp)
  · intro scene accepted
    rw [← ofRegions_eq_ok_iff.1 accepted]
    exact holds_regions scene

/-- A ball of radius one about the origin. -/
def unitBall (id : Int64) : Region := ⟨⟨id⟩, "water", .sphere ⟨.zero, .zero, .zero⟩ (.ofInt 1)⟩

/-- Two balls at one place are a scene.  A third one without a radius that is a number is to blame
for that, although its identifier is known and the one behind it is negative. -/
theorem ofRegions_spec_of_balls :
    let broken : Region := ⟨⟨7⟩, "void", .sphere ⟨.zero, .zero, .zero⟩ .nan⟩
    (∃ scene, ofRegions [unitBall 7, unitBall 3] = .ok scene ∧
      Holds [unitBall 7, unitBall 3] scene) ∧
    ofRegions [unitBall 7, unitBall 3, broken, unitBall (-1)]
      = .error (.degenerate ⟨7⟩ (.improperRadius .nan)) := by
  intro broken
  have fits : (unitBall 7).Fits [] ∧ (unitBall 3).Fits [unitBall 7] :=
    ⟨⟨by decide, by decide +kernel, by simp⟩, ⟨by decide, by decide +kernel, by decide⟩⟩
  have admissible : Admissible [unitBall 7, unitBall 3] :=
    ⟨by decide, by decide, by decide +kernel⟩
  obtain ⟨accepts, _, _, _, holds⟩ := ofRegions_spec [unitBall 7, unitBall 3]
  obtain ⟨scene, accepted⟩ := accepts.2 admissible
  obtain ⟨_, _, refuses, _⟩ := ofRegions_spec [unitBall 7, unitBall 3, broken, unitBall (-1)]
  refine ⟨⟨scene, accepted, holds scene accepted⟩, (refuses _).2 ⟨2, broken, rfl, ?_, ?_⟩⟩
  · exact .degenerate (by decide) (by decide +kernel)
  · intro j other before there
    match j, before with
    | 0, _ =>
        cases there
        exact fits.1
    | 1, _ =>
        cases there
        exact fits.2

end Scene
end Concordance
