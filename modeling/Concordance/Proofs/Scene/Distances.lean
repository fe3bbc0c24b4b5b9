import Concordance.Proofs.Binary64.Arithmetic
import Concordance.Proofs.Json.Doubles
import Concordance.Proofs.Json.Records
import Concordance.Proofs.Scene.Queries
import Concordance.Scene.Document

/-!
# Distances in scenes that were read from documents

A document holds finite numbers only, so the shapes of its scene have finite parameters
(`isFinite_of_ofDocument`).  Two things follow for a position in such a shape: its coordinates are
finite (`isFinite_of_contains`), and its distance to the surface is a number that is not below
zero (`zero_le_surfaceDistance`).  Both hold although sums and squares on the way may overflow.
-/

namespace Concordance

open Binary64 (zero)

/-- All coordinates of a position are finite. -/
structure Position.IsFinite (p : Position) : Prop where
  x : p.x.isFinite = true
  y : p.y.isFinite = true
  z : p.z.isFinite = true

/-- All parameters of a shape are finite. -/
def Shape.IsFinite : Shape → Prop
  | .box b => Position.IsFinite b.lower ∧ Position.IsFinite b.upper
  | .sphere center radius => Position.IsFinite center ∧ radius.isFinite = true

/-! ## Inside a shape -/

namespace Shape

variable {shape : Shape} {b : Box Binary64} {p center : Position} {radius : Binary64}

/-- The comparisons that put a position into a box. -/
lemma contains_box_iff : contains (.box b) p = true ↔
    (b.lower.x.le p.x = true ∧ p.x.le b.upper.x = true) ∧
    (b.lower.y.le p.y = true ∧ p.y.le b.upper.y = true) ∧
    b.lower.z.le p.z = true ∧ p.z.le b.upper.z = true := by
  simp only [contains, Box.contains, Bool.and_eq_true, and_assoc]
  exact Iff.rfl

/-- A finite distance starts from finite coordinates. -/
lemma isFinite_of_distance (h : (Position.distance p center).isFinite = true) :
    Position.IsFinite p := by
  have square := Binary64.isFinite_of_sqrt h
  obtain ⟨front, z⟩ := Binary64.isFinite_of_add square
  obtain ⟨x, y⟩ := Binary64.isFinite_of_add front
  exact ⟨Binary64.isFinite_of_sub (Binary64.isFinite_of_mul_self x),
    Binary64.isFinite_of_sub (Binary64.isFinite_of_mul_self y),
    Binary64.isFinite_of_sub (Binary64.isFinite_of_mul_self z)⟩

/-- A distance that is at most a finite radius is finite. -/
lemma isFinite_distance (finite : radius.isFinite = true)
    (h : (Position.distance p center).le radius = true) :
    (Position.distance p center).isFinite = true := by
  have number : (Position.distance p center).isNaN = false := by
    simp only [Binary64.le, Bool.and_eq_true, Bool.not_eq_true'] at h
    exact h.1.1
  have size : zero.le (Position.distance p center) = true := by
    rcases Binary64.isNaN_sqrt_or_zero_le (Point.zipWith Binary64.sub p center).sumOfSquares with
      noNumber | size
    · exact absurd (noNumber.symm.trans number) (by decide)
    · exact size
  exact Binary64.isFinite_of_le_of_le size h (by decide) finite

/-- **What is not finite lies in no finite shape.** -/
theorem isFinite_of_contains (finite : shape.IsFinite) (inside : shape.contains p = true) :
    Position.IsFinite p := by
  cases shape with
  | box b =>
      obtain ⟨lower, upper⟩ := finite
      obtain ⟨x, y, z⟩ := contains_box_iff.1 inside
      exact ⟨Binary64.isFinite_of_le_of_le x.1 x.2 lower.x upper.x,
        Binary64.isFinite_of_le_of_le y.1 y.2 lower.y upper.y,
        Binary64.isFinite_of_le_of_le z.1 z.2 lower.z upper.z⟩
  | sphere center radius => exact isFinite_of_distance (isFinite_distance finite.2 inside)

/-- **Distances to the surface from inside are numbers that are not below zero.** -/
theorem zero_le_surfaceDistance (finite : shape.IsFinite) (inside : shape.contains p = true) :
    zero.le (shape.surfaceDistance p) = true := by
  have here := isFinite_of_contains finite inside
  cases shape with
  | box b =>
      obtain ⟨lower, upper⟩ := finite
      obtain ⟨x, y, z⟩ := contains_box_iff.1 inside
      have contained : b.contains p = true := inside
      rw [surfaceDistance, Box.surfaceDistance, if_pos contained]
      refine Binary64.zero_le_least ?_
      simp only [List.forall_mem_cons]
      exact ⟨Binary64.zero_le_sub here.x lower.x x.1, Binary64.zero_le_sub upper.x here.x x.2,
        Binary64.zero_le_sub here.y lower.y y.1, Binary64.zero_le_sub upper.y here.y y.2,
        Binary64.zero_le_sub here.z lower.z z.1, Binary64.zero_le_sub upper.z here.z z.2,
        fun _ member => absurd member List.not_mem_nil⟩
  | sphere center radius =>
      exact Binary64.zero_le_abs (Binary64.isNaN_sub_eq_false (isFinite_distance finite.2 inside)
        finite.2)

end Shape

/-! ## Documents -/

namespace Scene

open Json (Value)

lemma isFinite_of_toBinary64? {v : Value} {x : Binary64} (h : v.toBinary64? = some x) :
    x.isFinite = true := by
  cases v with
  | number literal => exact Json.Number.isFinite_of_toBinary64? h
  | _ => cases h

lemma isFinite_of_toCoordinates? {v : Value} {p : Position} (h : v.toCoordinates? = some p) :
    Position.IsFinite p := by
  obtain ⟨items, _, read⟩ := Option.bind_eq_some_iff.1 h
  unfold Value.ofItems? at read
  split at read
  · simp only [Option.bind_eq_bind, Option.bind_eq_some_iff] at read
    obtain ⟨x, hx, y, hy, z, hz, built⟩ := read
    obtain rfl := Option.some.inj built
    exact ⟨isFinite_of_toBinary64? hx, isFinite_of_toBinary64? hy, isFinite_of_toBinary64? hz⟩
  · cases read

lemma isFinite_of_ofParameters? {kind : String} {parameters : List String → Option (List Value)}
    {shape : Shape} (h : Shape.ofParameters? kind parameters = some shape) : shape.IsFinite := by
  unfold Shape.ofParameters? at h
  split at h
  · split at h
    · simp only [Option.bind_eq_bind, Option.bind_eq_some_iff] at h
      obtain ⟨lower, hl, upper, hu, built⟩ := h
      obtain rfl := Option.some.inj built
      exact ⟨isFinite_of_toCoordinates? hl, isFinite_of_toCoordinates? hu⟩
    · cases h
  split at h
  · split at h
    · simp only [Option.bind_eq_bind, Option.bind_eq_some_iff] at h
      obtain ⟨center, hc, radius, hr, built⟩ := h
      obtain rfl := Option.some.inj built
      exact ⟨isFinite_of_toCoordinates? hc, isFinite_of_toBinary64? hr⟩
    · cases h
  · cases h

lemma isFinite_of_ofJson? {enclosing : Nat} {v : Value} {shape : Shape}
    (h : Shape.ofJson? enclosing v = some shape) : shape.IsFinite := by
  unfold Shape.ofJson? at h
  split at h
  · split at h
    · obtain ⟨kind, _, read⟩ := Option.bind_eq_some_iff.1 h
      exact isFinite_of_ofParameters? read
    · obtain ⟨named, _, later⟩ := Option.bind_eq_some_iff.1 h
      obtain ⟨kind, _, read⟩ := Option.bind_eq_some_iff.1 later
      exact isFinite_of_ofParameters? read
    · cases h
  · cases h

lemma isFinite_of_region {enclosing : Nat} {v : Value} {region : Region}
    (h : Region.ofJson? enclosing v = some region) : region.shape.IsFinite := by
  unfold Region.ofJson? at h
  split at h
  · simp only [Option.bind_eq_bind, Option.bind_eq_some_iff] at h
    obtain ⟨_, _, _, _, shape, read, built⟩ := h
    obtain rfl := Option.some.inj built
    exact isFinite_of_ofJson? read
  · cases h

lemma isFinite_of_mapM {enclosing : Nat} {items : List Value} {regions : List Region}
    (h : items.mapM (Region.ofJson? enclosing) = some regions) :
    ∀ region ∈ regions, region.shape.IsFinite := by
  induction Value.mapM_eq_some_iff.1 h with
  | nil => exact fun region member => absurd member List.not_mem_nil
  | cons read later ih =>
      exact List.forall_mem_cons.2 ⟨isFinite_of_region read, ih (Value.mapM_eq_some_iff.2 later)⟩

/-- **Scenes that are read from documents have finite shapes.** -/
theorem isFinite_of_ofDocument {text : List Char} {scene : Scene}
    (h : ofDocument text = .ok scene) : ∀ region ∈ scene.regions, region.shape.IsFinite := by
  unfold ofDocument at h
  split at h
  · cases h
  rename_i regions read
  have checked : scene.regions = regions := by
    cases result : ofRegions regions with
    | error fault =>
        rw [result] at h
        cases h
    | ok found =>
        rw [result] at h
        cases h
        exact ofRegions_eq_ok_iff.1 result
  obtain ⟨v, _, decoded⟩ := Option.bind_eq_some_iff.1 read
  unfold regionsOfJson? at decoded
  split at decoded
  · obtain ⟨items, _, mapped⟩ := Option.bind_eq_some_iff.1 decoded
    exact checked ▸ isFinite_of_mapM mapped
  · cases decoded

variable {scene : Scene} {p : Position}

/-- **Positions that are not finite are outside of every scene with finite shapes.** -/
theorem regionAt_of_not_isFinite (finite : ∀ region ∈ scene.regions, region.shape.IsFinite)
    (infinite : ¬ Position.IsFinite p) : scene.resolver.regionAt p = .outside := by
  refine regionAt_of_none ?_
  rw [regionAt?, List.find?_eq_none]
  intro region member inside
  exact infinite (Shape.isFinite_of_contains (finite region member) inside)

/-- The distance to the surface of the region that a position resolves to. -/
lemma zero_le_surfaceDistance (finite : ∀ region ∈ scene.regions, region.shape.IsFinite)
    (inside : (scene.resolver.regionAt p).isOutside = false) :
    zero.le (scene.namer.surfaceDistance p (scene.resolver.regionAt p)) = true := by
  cases found : scene.regionAt? p with
  | none =>
      rw [regionAt_of_none found] at inside
      exact absurd inside (by decide)
  | some region =>
      obtain ⟨member, contained⟩ := regionAt?_eq_some found
      have resolved : scene.resolver.regionAt p = region.id := by simp only [resolver, found]
      rw [resolved]
      simp only [namer, region?_id member]
      exact Shape.zero_le_surfaceDistance (finite region member) contained

end Scene
end Concordance
