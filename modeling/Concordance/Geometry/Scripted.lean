import Concordance.Point

/-!
# What a comparison asks of a geometry

A comparison needs a geometry twice: as a `Resolver`, which finds the region of a position, and
as a `Namer`, which knows compositions and surfaces of regions.  The two may come from
different geometries.

A `ScriptedGeometry` is both, and answers for single positions: each placement pins a position to
a region and to a distance from its surface.  The first placement at a position counts, positions
are compared as numbers, and a position without placement is outside.
-/

namespace Concordance

/-- Finds regions. -/
structure Resolver where
  /-- The region of a position; below zero outside every region. -/
  regionAt : Position → RegionId
  /-- The number of regions that the geometry declares. -/
  regionCount : Nat

/-- Describes regions. -/
structure Namer where
  /-- The composition of a region, if the region is known. -/
  composition? : RegionId → Option String
  /-- The distance from a position to the surface of a region, from either side; infinite for
  an unknown region, so that nothing is close to it. -/
  surfaceDistance : Position → RegionId → Binary64

/-! ## Scripted geometries -/

/-- A position with its answers. -/
structure Placement where
  position : Position
  region : RegionId
  distance : Binary64
  deriving DecidableEq, Repr

/-- A geometry given position by position. -/
structure ScriptedGeometry where
  names : OrderedMap RegionId String
  placements : List Placement

namespace ScriptedGeometry

/-- The geometry without regions. -/
def empty : ScriptedGeometry := ⟨.empty, []⟩

/-- Declares a region and its composition; a later declaration replaces an earlier one. -/
def declare (g : ScriptedGeometry) (region : RegionId) (composition : String) :
    ScriptedGeometry :=
  { g with names := g.names.insert region composition }

/-- Pins a position to a region, which need not be declared. -/
def place (g : ScriptedGeometry) (placement : Placement) : ScriptedGeometry :=
  { g with placements := g.placements ++ [placement] }

/-- The placement that counts at a position. -/
def placementAt? (g : ScriptedGeometry) (p : Position) : Option Placement :=
  g.placements.find? fun placement => Position.eq placement.position p

/-- The geometry as a finder of regions. -/
def resolver (g : ScriptedGeometry) : Resolver where
  regionAt p := match g.placementAt? p with
    | some placement => placement.region
    | none => .outside
  regionCount := g.names.size

/-- The geometry as a describer of regions. -/
def namer (g : ScriptedGeometry) : Namer where
  composition? := g.names.get?
  surfaceDistance p region := match g.placementAt? p with
    | some placement => if placement.region = region then placement.distance else .infinity
    | none => .infinity

end ScriptedGeometry
end Concordance
