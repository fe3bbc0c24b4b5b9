import Concordance.Binary64.Arithmetic
import Concordance.Binary64.Order
import Concordance.EquivalenceKey

/-!
# Points in space and sampled points

A `Point` has three coordinates of some scalar type.  Positions are points of doubles.  A
`SampledPoint` is a record of a transport trace: a position, and the material and density that
the trace claims there.
-/

namespace Concordance

/-- A point in three-dimensional space. -/
structure Point (α : Type) where
  x : α
  y : α
  z : α
  deriving DecidableEq, Repr

/-- A point whose coordinates are doubles. -/
abbrev Position := Point Binary64

namespace Point

/-- The three coordinates in order. -/
def toList {α : Type} (p : Point α) : List α := [p.x, p.y, p.z]

/-- Applies a function to the corresponding coordinates of two points. -/
def zipWith {α β γ : Type} (f : α → β → γ) (p : Point α) (q : Point β) : Point γ :=
  ⟨f p.x q.x, f p.y q.y, f p.z q.z⟩

/-- The sum of the squares of the coordinates, from the first to the last. -/
def sumOfSquares {α : Type} [Add α] [Mul α] (p : Point α) : α :=
  p.x * p.x + p.y * p.y + p.z * p.z

end Point

namespace Position

/-- The distance between two positions. -/
def distance (p q : Position) : Binary64 := (Point.zipWith Binary64.sub p q).sumOfSquares.sqrt

/-- Whether two positions are equal as numbers, coordinate by coordinate. -/
def eq (p q : Position) : Bool := p.x.eq q.x && p.y.eq q.y && p.z.eq q.z

/-- Three coordinates between square brackets. -/
def listText (p : Position) : List Char :=
  '[' :: p.x.literalText ++ ", ".toList ++ p.y.literalText ++ ", ".toList ++
    p.z.literalText ++ [']']

/-- Three coordinates by name, as they stand in messages. -/
def text (p : Position) : List Char :=
  "Point3 \x7b x: ".toList ++ p.x.literalText ++ ", y: ".toList ++ p.y.literalText ++
    ", z: ".toList ++ p.z.literalText ++ " \x7d".toList

end Position

/-- One sampled position of a transport trace. -/
structure SampledPoint where
  position : Position
  /-- The material that the trace claims at the position. -/
  material : MaterialId
  /-- The density that the trace claims at the position. -/
  density : Binary64
  /-- The number of the point in the trace: its history or event. -/
  rank : Int64
  deriving DecidableEq, Repr

/-- The key under which the material of a point is matched against the model. -/
def SampledPoint.key (p : SampledPoint) : EquivalenceKey := .of p.material p.density

end Concordance
