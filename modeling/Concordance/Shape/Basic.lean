import Concordance.Shape.Box

/-!
# Shapes of regions

A shape is a box or a sphere.  Both hold their surface.  Any parameters are allowed here;
`Shape.fault?` says what is wrong with a shape that no region may have.
-/

namespace Concordance

/-- A primitive shape. -/
inductive Shape where
  | box (box : Box Binary64)
  | sphere (center : Position) (radius : Binary64)
  deriving DecidableEq, Repr

/-- Why a shape has no inside. -/
inductive ShapeFault where
  /-- The lower corner is not below the upper one on every axis. -/
  | improperBox (box : Box Binary64)
  /-- The radius is not positive. -/
  | improperRadius (radius : Binary64)
  deriving DecidableEq, Repr

/-- The wording of a fault. -/
def ShapeFault.message : ShapeFault → String
  | improperBox box =>
    "box min " ++ String.ofList (Position.listText box.lower) ++ " is not below max " ++
      String.ofList (Position.listText box.upper)
  | improperRadius radius =>
    "sphere radius " ++ String.ofList radius.positionalText ++ " is not positive"

namespace Shape

/-- Whether a position lies inside or on the surface. -/
def contains : Shape → Position → Bool
  | box b, p => b.contains p
  | sphere center radius, p => (Position.distance p center).le radius

/-- The distance from a position to the surface, from either side. -/
def surfaceDistance : Shape → Position → Binary64
  | box b, p => b.surfaceDistance Binary64.sqrt p
  | sphere center radius, p => (Position.distance p center - radius).abs

/-- What keeps a shape from having an inside, if anything does.  Comparisons with NaN are
false, so a NaN corner or radius is a fault. -/
def fault? : Shape → Option ShapeFault
  | box b => if b.isProper then none else some (.improperBox b)
  | sphere _ radius => if Binary64.lt .zero radius then none else some (.improperRadius radius)

end Shape
end Concordance
