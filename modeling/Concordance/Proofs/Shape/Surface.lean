import Mathlib.Algebra.Order.Field.Rat
import Mathlib.Tactic.Linarith
import Mathlib.Tactic.NormNum
import Mathlib.Tactic.Ring
import Concordance.Shape.Box

/-!
# The distance of a box is that to its surface

A box takes the distance to its surface from one of two formulas: the least of six gaps for a
point inside, and the root of three squared gaps for a point outside.  Over doubles either may be
rounded.  Here both are read over an ordered field, where they are exact, and squared, so that no
root is needed.

* Axis by axis, `clamp` is the place of an interval that is nearest to a coordinate, and `gap` is
  how far away it is (`gap_cases`).  So the point of the box that is nearest to a point outside is
  the one with clamped coordinates.  It lies on the surface, since one of the coordinates was
  outside its interval.
* From inside, the nearest point of a face plane is in the box, whichever face it is, and the
  least gap is one of the six.
* `nearest_on_surface` puts the two together.
-/

namespace Concordance

/-- The numbers of an ordered field, without rounding.  No box asks for the least of no numbers. -/
instance Scalar.exact {K : Type} [Field K] [LinearOrder K] : Scalar K where
  zero := 0
  le a b := decide (a ≤ b)
  lt a b := decide (a < b)
  max a b := Max.max a b
  least xs := xs.min?.getD 0

namespace Point

variable {K : Type} [Field K]

/-- The square of the distance between two points. -/
def squaredDistance (p q : Point K) : K := (zipWith (· - ·) p q).sumOfSquares

lemma squaredDistance_eq (p q : Point K) : p.squaredDistance q
    = (p.x - q.x) * (p.x - q.x) + (p.y - q.y) * (p.y - q.y) + (p.z - q.z) * (p.z - q.z) := rfl

lemma squaredDistance_self (p : Point K) : p.squaredDistance p = 0 := by
  rw [squaredDistance_eq]
  ring

variable [LinearOrder K] [IsStrictOrderedRing K]

lemma squaredDistance_nonneg (p q : Point K) : 0 ≤ p.squaredDistance q := by
  rw [squaredDistance_eq]
  exact add_nonneg (add_nonneg (mul_self_nonneg _) (mul_self_nonneg _)) (mul_self_nonneg _)

lemma eq_of_squaredDistance_eq_zero {p q : Point K} (zero : p.squaredDistance q = 0) : p = q := by
  have x := mul_self_nonneg (p.x - q.x)
  have y := mul_self_nonneg (p.y - q.y)
  have z := mul_self_nonneg (p.z - q.z)
  rw [squaredDistance_eq] at zero
  have sameX : p.x - q.x = 0 := mul_self_eq_zero.1 (by linarith)
  have sameY : p.y - q.y = 0 := mul_self_eq_zero.1 (by linarith)
  have sameZ : p.z - q.z = 0 := mul_self_eq_zero.1 (by linarith)
  cases p
  cases q
  simp only [mk.injEq]
  exact ⟨sub_eq_zero.1 sameX, sub_eq_zero.1 sameY, sub_eq_zero.1 sameZ⟩

end Point

namespace Box

variable {K : Type} [Field K] [LinearOrder K]

/-- The points of a box that lie in one of its faces. -/
structure OnSurface (box : Box K) (q : Point K) : Prop where
  contained : box.contains q = true
  face : q.x = box.lower.x ∨ q.x = box.upper.x ∨ q.y = box.lower.y ∨ q.y = box.upper.y ∨
    q.z = box.lower.z ∨ q.z = box.upper.z

/-- The square of the distance from a point to the surface. -/
def squaredSurfaceDistance (box : Box K) (p : Point K) : K :=
  if box.contains p then box.leastGap p * box.leastGap p else (box.gaps p).sumOfSquares

variable {box : Box K} {p q : Point K} {low high c d : K}

/-! ## The definitions over a field -/

lemma contains_iff : box.contains p = true ↔
    (box.lower.x ≤ p.x ∧ p.x ≤ box.upper.x) ∧ (box.lower.y ≤ p.y ∧ p.y ≤ box.upper.y) ∧
      box.lower.z ≤ p.z ∧ p.z ≤ box.upper.z := by
  simp only [contains, Scalar.le, Bool.and_eq_true, decide_eq_true_eq, and_assoc]

lemma isProper_iff : box.isProper = true ↔
    box.lower.x < box.upper.x ∧ box.lower.y < box.upper.y ∧ box.lower.z < box.upper.z := by
  simp only [isProper, Scalar.lt, Bool.and_eq_true, decide_eq_true_eq, and_assoc]

lemma gap_eq (low high c : K) : gap low high c = max (max (low - c) (c - high)) 0 := rfl

lemma sumOfSquares_gaps (box : Box K) (p : Point K) : (box.gaps p).sumOfSquares
    = gap box.lower.x box.upper.x p.x * gap box.lower.x box.upper.x p.x
      + gap box.lower.y box.upper.y p.y * gap box.lower.y box.upper.y p.y
      + gap box.lower.z box.upper.z p.z * gap box.lower.z box.upper.z p.z := rfl

/-- The squared distance is the square of the distance, for any root that is one where it is
taken. -/
lemma surfaceDistance_mul_self {root : K → K}
    (h : root (box.gaps p).sumOfSquares * root (box.gaps p).sumOfSquares
      = (box.gaps p).sumOfSquares) :
    box.surfaceDistance root p * box.surfaceDistance root p = box.squaredSurfaceDistance p := by
  rw [surfaceDistance, squaredSurfaceDistance]
  split
  · rfl
  · exact h

/-! ## One axis -/

/-- The place of an interval that is nearest to a coordinate. -/
def clamp (low high c : K) : K := max low (min c high)

section

variable [IsStrictOrderedRing K]

/-- A coordinate is below its interval, in it, or above it. -/
lemma gap_cases (proper : low ≤ high) (c : K) :
    (c < low ∧ gap low high c = low - c ∧ clamp low high c = low) ∨
    ((low ≤ c ∧ c ≤ high) ∧ gap low high c = 0 ∧ clamp low high c = c) ∨
    (high < c ∧ gap low high c = c - high ∧ clamp low high c = high) := by
  rw [gap_eq, clamp]
  rcases lt_or_ge c low with below | notBelow
  · left
    have first : c - high ≤ low - c := by linarith
    have positive : 0 ≤ low - c := by linarith
    have place : min c high ≤ low := le_trans (min_le_left c high) below.le
    exact ⟨below, by rw [max_eq_left first, max_eq_left positive], max_eq_left place⟩
  rcases lt_or_ge high c with above | notAbove
  · right; right
    have second : low - c ≤ c - high := by linarith
    have positive : 0 ≤ c - high := by linarith
    refine ⟨above, by rw [max_eq_right second, max_eq_left positive], ?_⟩
    rw [min_eq_right above.le, max_eq_right proper]
  · right; left
    have between : max (low - c) (c - high) ≤ 0 := max_le (by linarith) (by linarith)
    refine ⟨⟨notBelow, notAbove⟩, max_eq_right between, ?_⟩
    rw [min_eq_left notAbove, max_eq_right notBelow]

lemma clamp_mem (proper : low ≤ high) (c : K) :
    low ≤ clamp low high c ∧ clamp low high c ≤ high := by
  rcases gap_cases proper c with ⟨_, _, place⟩ | ⟨inside, _, place⟩ | ⟨_, _, place⟩
  · rw [place]
    exact ⟨le_rfl, proper⟩
  · rw [place]
    exact inside
  · rw [place]
    exact ⟨proper, le_rfl⟩

/-- What is outside an interval is clamped to one of its ends, and has a gap. -/
lemma gap_of_not_mem (proper : low ≤ high) (outside : ¬ (low ≤ c ∧ c ≤ high)) :
    (clamp low high c = low ∨ clamp low high c = high) ∧ 0 < gap low high c := by
  rcases gap_cases proper c with ⟨below, gap, place⟩ | ⟨inside, _, _⟩ | ⟨above, gap, place⟩
  · exact ⟨.inl place, by linarith⟩
  · exact absurd inside outside
  · exact ⟨.inr place, by linarith⟩

/-- **The clamped place is as far away as the gap says.** -/
lemma sub_clamp_mul_self (proper : low ≤ high) (c : K) :
    (c - clamp low high c) * (c - clamp low high c) = gap low high c * gap low high c := by
  rcases gap_cases proper c with ⟨_, gap, place⟩ | ⟨_, gap, place⟩ | ⟨_, gap, place⟩ <;>
    rw [gap, place] <;> ring

/-- **No place of the interval is nearer.** -/
lemma gap_mul_self_le (inside : low ≤ d ∧ d ≤ high) (c : K) :
    gap low high c * gap low high c ≤ (c - d) * (c - d) := by
  obtain ⟨notBelow, notAbove⟩ := inside
  rcases gap_cases (le_trans notBelow notAbove) c with
    ⟨below, gap, _⟩ | ⟨_, gap, _⟩ | ⟨above, gap, _⟩
  · rw [gap, ← neg_mul_neg (c - d)]
    exact mul_self_le_mul_self (by linarith) (by linarith)
  · rw [gap, mul_zero]
    exact mul_self_nonneg _
  · rw [gap]
    exact mul_self_le_mul_self (by linarith) (by linarith)

end

/-! ## Points outside -/

/-- The point of a box that is nearest to a point outside. -/
def clamped (box : Box K) (p : Point K) : Point K :=
  ⟨clamp box.lower.x box.upper.x p.x, clamp box.lower.y box.upper.y p.y,
    clamp box.lower.z box.upper.z p.z⟩

lemma not_mem_of_not_contains (outside : box.contains p ≠ true) :
    ¬ (box.lower.x ≤ p.x ∧ p.x ≤ box.upper.x) ∨ ¬ (box.lower.y ≤ p.y ∧ p.y ≤ box.upper.y) ∨
      ¬ (box.lower.z ≤ p.z ∧ p.z ≤ box.upper.z) := by
  rw [Ne, contains_iff] at outside
  tauto

section

variable [IsStrictOrderedRing K]

lemma onSurface_clamped (proper : box.isProper = true) (outside : box.contains p ≠ true) :
    box.OnSurface (box.clamped p) := by
  obtain ⟨x, y, z⟩ := isProper_iff.1 proper
  refine ⟨contains_iff.2 ⟨clamp_mem x.le _, clamp_mem y.le _, clamp_mem z.le _⟩, ?_⟩
  simp only [clamped]
  rcases not_mem_of_not_contains outside with out | out | out
  · have := (gap_of_not_mem x.le out).1
    tauto
  · have := (gap_of_not_mem y.le out).1
    tauto
  · have := (gap_of_not_mem z.le out).1
    tauto

lemma squaredDistance_clamped (proper : box.isProper = true) :
    p.squaredDistance (box.clamped p) = (box.gaps p).sumOfSquares := by
  obtain ⟨x, y, z⟩ := isProper_iff.1 proper
  rw [Point.squaredDistance_eq, sumOfSquares_gaps]
  simp only [clamped, sub_clamp_mul_self x.le, sub_clamp_mul_self y.le, sub_clamp_mul_self z.le]

lemma sumOfSquares_gaps_le (contained : box.contains q = true) :
    (box.gaps p).sumOfSquares ≤ p.squaredDistance q := by
  obtain ⟨x, y, z⟩ := contains_iff.1 contained
  rw [Point.squaredDistance_eq, sumOfSquares_gaps]
  exact add_le_add (add_le_add (gap_mul_self_le x _) (gap_mul_self_le y _)) (gap_mul_self_le z _)

end

/-! ## Points inside -/

/-- The distances from a point inside to the six face planes. -/
def faceGaps (box : Box K) (p : Point K) : List K :=
  [p.x - box.lower.x, box.upper.x - p.x, p.y - box.lower.y, box.upper.y - p.y,
    p.z - box.lower.z, box.upper.z - p.z]

/-- The least gap is one of the six, and none of them is smaller. -/
lemma leastGap_spec (box : Box K) (p : Point K) :
    box.leastGap p ∈ box.faceGaps p ∧ ∀ g ∈ box.faceGaps p, box.leastGap p ≤ g := by
  obtain ⟨least, found⟩ : ∃ least, (box.faceGaps p).min? = some least :=
    Option.isSome_iff_exists.1 (List.isSome_min?_of_ne_nil (List.cons_ne_nil _ _))
  have same : box.leastGap p = least := by
    change (box.faceGaps p).min?.getD 0 = least
    rw [found, Option.getD_some]
  rw [same]
  exact List.min?_eq_some_iff.1 found

/-- **Each of the six gaps is the distance to a point of the surface.** -/
lemma exists_of_mem_faceGaps (proper : box.isProper = true) (contained : box.contains p = true)
    {g : K} (member : g ∈ box.faceGaps p) :
    ∃ q, box.OnSurface q ∧ g * g = p.squaredDistance q := by
  obtain ⟨x, y, z⟩ := contains_iff.1 contained
  obtain ⟨properX, properY, properZ⟩ := isProper_iff.1 proper
  simp only [faceGaps, List.mem_cons, List.not_mem_nil, or_false] at member
  -- the foot of the perpendicular on the face that the gap belongs to
  rcases member with rfl | rfl | rfl | rfl | rfl | rfl
  · exact ⟨⟨box.lower.x, p.y, p.z⟩, ⟨contains_iff.2 ⟨⟨le_rfl, properX.le⟩, y, z⟩, by simp⟩,
      by rw [Point.squaredDistance_eq]; ring⟩
  · exact ⟨⟨box.upper.x, p.y, p.z⟩, ⟨contains_iff.2 ⟨⟨properX.le, le_rfl⟩, y, z⟩, by simp⟩,
      by rw [Point.squaredDistance_eq]; ring⟩
  · exact ⟨⟨p.x, box.lower.y, p.z⟩, ⟨contains_iff.2 ⟨x, ⟨le_rfl, properY.le⟩, z⟩, by simp⟩,
      by rw [Point.squaredDistance_eq]; ring⟩
  · exact ⟨⟨p.x, box.upper.y, p.z⟩, ⟨contains_iff.2 ⟨x, ⟨properY.le, le_rfl⟩, z⟩, by simp⟩,
      by rw [Point.squaredDistance_eq]; ring⟩
  · exact ⟨⟨p.x, p.y, box.lower.z⟩, ⟨contains_iff.2 ⟨x, y, le_rfl, properZ.le⟩, by simp⟩,
      by rw [Point.squaredDistance_eq]; ring⟩
  · exact ⟨⟨p.x, p.y, box.upper.z⟩, ⟨contains_iff.2 ⟨x, y, properZ.le, le_rfl⟩, by simp⟩,
      by rw [Point.squaredDistance_eq]; ring⟩

section

variable [IsStrictOrderedRing K]

lemma faceGaps_nonneg (contained : box.contains p = true) : ∀ g ∈ box.faceGaps p, 0 ≤ g := by
  obtain ⟨x, y, z⟩ := contains_iff.1 contained
  simp only [faceGaps, List.forall_mem_cons, sub_nonneg]
  exact ⟨x.1, x.2, y.1, y.2, z.1, z.2, fun _ member => absurd member List.not_mem_nil⟩

lemma leastGap_nonneg (contained : box.contains p = true) : 0 ≤ box.leastGap p :=
  faceGaps_nonneg contained _ (leastGap_spec box p).1

/-- **A point of the surface is at least as far away as the plane of its face.** -/
lemma exists_faceGap_le (surface : box.OnSurface q) (p : Point K) :
    ∃ g ∈ box.faceGaps p, g * g ≤ p.squaredDistance q := by
  have x := mul_self_nonneg (p.x - q.x)
  have y := mul_self_nonneg (p.y - q.y)
  have z := mul_self_nonneg (p.z - q.z)
  rw [Point.squaredDistance_eq]
  rcases surface.face with face | face | face | face | face | face
  · exact ⟨p.x - box.lower.x, by simp [faceGaps], by rw [← face]; linarith⟩
  · exact ⟨box.upper.x - p.x, by simp [faceGaps], by rw [← face]; linarith⟩
  · exact ⟨p.y - box.lower.y, by simp [faceGaps], by rw [← face]; linarith⟩
  · exact ⟨box.upper.y - p.y, by simp [faceGaps], by rw [← face]; linarith⟩
  · exact ⟨p.z - box.lower.z, by simp [faceGaps], by rw [← face]; linarith⟩
  · exact ⟨box.upper.z - p.z, by simp [faceGaps], by rw [← face]; linarith⟩

lemma leastGap_mul_self_le (contained : box.contains p = true) (surface : box.OnSurface q) :
    box.leastGap p * box.leastGap p ≤ p.squaredDistance q := by
  obtain ⟨g, member, near⟩ := exists_faceGap_le surface p
  have least := (leastGap_spec box p).2 g member
  exact le_trans (mul_self_le_mul_self (leastGap_nonneg contained) least) near

/-! ## Both -/

/-- No point of the surface is nearer than the distance of the box. -/
lemma squaredSurfaceDistance_le (surface : box.OnSurface q) (p : Point K) :
    box.squaredSurfaceDistance p ≤ p.squaredDistance q := by
  rw [squaredSurfaceDistance]
  split
  · rename_i contained
    exact leastGap_mul_self_le contained surface
  · exact sumOfSquares_gaps_le surface.contained

/-- Some point of the surface is as near as the distance of the box. -/
lemma exists_squaredSurfaceDistance_eq (proper : box.isProper = true) (p : Point K) :
    ∃ q, box.OnSurface q ∧ box.squaredSurfaceDistance p = p.squaredDistance q := by
  rw [squaredSurfaceDistance]
  split
  · rename_i contained
    exact exists_of_mem_faceGaps proper contained (leastGap_spec box p).1
  · rename_i outside
    exact ⟨box.clamped p, onSurface_clamped proper outside, (squaredDistance_clamped proper).symm⟩

/-- **The distance of a proper box is the distance to its surface.**  Its square is at most the
squared distance to any point of the surface and is that to one of them, so that it is zero
exactly on the surface; and it is the square of what the box computes, whatever function takes
the root outside. -/
theorem nearest_on_surface (box : Box K) (proper : box.isProper = true) (p : Point K) :
    (∀ q, box.OnSurface q → box.squaredSurfaceDistance p ≤ p.squaredDistance q) ∧
    (∃ q, box.OnSurface q ∧ box.squaredSurfaceDistance p = p.squaredDistance q) ∧
    (box.squaredSurfaceDistance p = 0 ↔ box.OnSurface p) ∧
    ∀ root : K → K, root (box.gaps p).sumOfSquares * root (box.gaps p).sumOfSquares
        = (box.gaps p).sumOfSquares →
      box.surfaceDistance root p * box.surfaceDistance root p = box.squaredSurfaceDistance p := by
  obtain ⟨foot, surface, attained⟩ := exists_squaredSurfaceDistance_eq proper p
  refine ⟨fun q onSurface => squaredSurfaceDistance_le onSurface p, ⟨foot, surface, attained⟩,
    ⟨fun zero => ?_, fun onSurface => ?_⟩, fun root => surfaceDistance_mul_self⟩
  · rw [attained] at zero
    rwa [Point.eq_of_squaredDistance_eq_zero zero]
  · have bound := squaredSurfaceDistance_le onSurface p
    rw [Point.squaredDistance_self] at bound
    exact le_antisymm bound (attained ▸ Point.squaredDistance_nonneg p foot)

end

/-- The unit box of rational numbers, from beyond one of its edges and from a point inside. -/
theorem nearest_on_surface_of_unit_box :
    let box : Box ℚ := ⟨⟨0, 0, 0⟩, ⟨1, 1, 1⟩⟩
    let outside : Point ℚ := ⟨4, -4, 1 / 2⟩
    let inside : Point ℚ := ⟨1 / 2, 3 / 4, 1 / 2⟩
    box.isProper = true ∧
      (∀ q, box.OnSurface q → 25 ≤ outside.squaredDistance q) ∧
      box.surfaceDistance (fun _ => 5) outside * box.surfaceDistance (fun _ => 5) outside = 25 ∧
      ∃ q, box.OnSurface q ∧ 1 / 16 = inside.squaredDistance q := by
  intro box outside inside
  have proper : box.isProper = true := by decide +kernel
  have far : box.squaredSurfaceDistance outside = 25 := by decide +kernel
  have near : box.squaredSurfaceDistance inside = 1 / 16 := by decide +kernel
  obtain ⟨bound, _, _, square⟩ := nearest_on_surface box proper outside
  obtain ⟨_, attained, _⟩ := nearest_on_surface box proper inside
  refine ⟨proper, far ▸ bound, ?_, near ▸ attained⟩
  rw [square (fun _ => 5) (by decide +kernel), far]

end Box
end Concordance
