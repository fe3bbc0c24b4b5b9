import Concordance.Point

/-!
# Axis-aligned boxes

Boxes over any scalar type, so that the same definitions can be read over doubles and over
exact numbers.

* `Box.contains` holds of the points between the two corners, faces included.
* `Box.leastGap` is the distance from a point inside to the nearest face plane.
* `Box.gaps` are the three distances by which a point outside misses the box; the distance to
  the box is the root of the sum of their squares.
-/

namespace Concordance

/-- What boxes need of their coordinates. -/
class Scalar (α : Type) extends Add α, Sub α, Mul α where
  /-- The number a distance is never below. -/
  zero : α
  /-- Less or equal, as numbers. -/
  le : α → α → Bool
  /-- Strictly less, as numbers. -/
  lt : α → α → Bool
  /-- The larger of two numbers. -/
  max : α → α → α
  /-- The least number of a list. -/
  least : List α → α

instance : Scalar Binary64 where
  zero := Binary64.zero
  le := Binary64.le
  lt := Binary64.lt
  max := Binary64.max
  least := Binary64.least

/-- A box given by its lower and its upper corner. -/
structure Box (α : Type) where
  lower : Point α
  upper : Point α
  deriving DecidableEq, Repr

namespace Box

variable {α : Type} [Scalar α]

/-- Whether a point lies between the corners on every axis, faces included. -/
def contains (box : Box α) (p : Point α) : Bool :=
  Scalar.le box.lower.x p.x && Scalar.le p.x box.upper.x &&
    (Scalar.le box.lower.y p.y && Scalar.le p.y box.upper.y) &&
    (Scalar.le box.lower.z p.z && Scalar.le p.z box.upper.z)

/-- Whether the lower corner is strictly below the upper one on every axis. -/
def isProper (box : Box α) : Bool :=
  Scalar.lt box.lower.x box.upper.x && Scalar.lt box.lower.y box.upper.y &&
    Scalar.lt box.lower.z box.upper.z

/-- The distance from a point inside to the nearest of the six face planes. -/
def leastGap (box : Box α) (p : Point α) : α :=
  Scalar.least
    [p.x - box.lower.x, box.upper.x - p.x, p.y - box.lower.y, box.upper.y - p.y,
      p.z - box.lower.z, box.upper.z - p.z]

/-- How far a coordinate lies outside an interval; zero inside. -/
def gap (low high c : α) : α := Scalar.max (Scalar.max (low - c) (c - high)) Scalar.zero

/-- How far a point lies outside the box on each axis. -/
def gaps (box : Box α) (p : Point α) : Point α :=
  ⟨gap box.lower.x box.upper.x p.x, gap box.lower.y box.upper.y p.y,
    gap box.lower.z box.upper.z p.z⟩

/-- The distance from a point to the surface, from either side, by a given square root. -/
def surfaceDistance (root : α → α) (box : Box α) (p : Point α) : α :=
  if box.contains p then box.leastGap p else root (box.gaps p).sumOfSquares

end Box
end Concordance
