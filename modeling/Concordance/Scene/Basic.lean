import Concordance.Geometry.Scripted
import Concordance.Shape.Basic

/-!
# Declarative scenes

A scene is a list of regions in order of priority: a position belongs to the first region whose
shape contains it.  `Scene.ofRegions` accepts the lists whose identifiers are distinct and not
negative and whose shapes have an inside; otherwise it names the first region at fault.

A `Scene` carries the proof that its list was accepted, so every scene is a checked one.
-/

namespace Concordance

/-- One region of a scene. -/
structure Region where
  id : RegionId
  composition : String
  shape : Shape
  deriving DecidableEq, Repr

/-- Why a list of regions is no scene. -/
inductive SceneFault where
  | negative (region : RegionId)
  | degenerate (region : RegionId) (fault : ShapeFault)
  | duplicate (region : RegionId)
  deriving DecidableEq, Repr

/-- The wording of a fault. -/
def SceneFault.message : SceneFault → String
  | negative region => "region id " ++ String.ofList region.text ++ " is negative"
  | degenerate region fault =>
    "region " ++ String.ofList region.text ++ " has a degenerate shape: " ++ fault.message
  | duplicate region => "region " ++ String.ofList region.text ++ " declared twice"

/-- The fault of a region that stands behind regions with the identifiers `earlier`.  A
negative identifier goes before a degenerate shape, and that before a repeated identifier. -/
def Region.fault? (earlier : List RegionId) (region : Region) : Option SceneFault :=
  if region.id.isOutside then some (.negative region.id)
  else match region.shape.fault? with
    | some fault => some (.degenerate region.id fault)
    | none => if region.id ∈ earlier then some (.duplicate region.id) else none

/-- The first fault in a list of regions behind regions with the identifiers `earlier`. -/
def firstFault? (earlier : List RegionId) : List Region → Option SceneFault
  | [] => none
  | region :: rest =>
    match region.fault? earlier with
    | some fault => some fault
    | none => firstFault? (region.id :: earlier) rest

/-- A checked list of regions, in order of priority. -/
structure Scene where
  regions : List Region
  faultless : firstFault? [] regions = none

namespace Scene

/-- Checks a list of regions. -/
def ofRegions (regions : List Region) : Except SceneFault Scene :=
  match h : firstFault? [] regions with
  | some fault => .error fault
  | none => .ok ⟨regions, h⟩

/-- The region with an identifier. -/
def region? (scene : Scene) (id : RegionId) : Option Region :=
  scene.regions.find? fun region => region.id == id

/-- The first region that contains a position. -/
def regionAt? (scene : Scene) (p : Position) : Option Region :=
  scene.regions.find? fun region => region.shape.contains p

/-- The scene as a finder of regions. -/
def resolver (scene : Scene) : Resolver where
  regionAt p := match scene.regionAt? p with
    | some region => region.id
    | none => .outside
  regionCount := scene.regions.length

/-- The scene as a describer of regions. -/
def namer (scene : Scene) : Namer where
  composition? id := (scene.region? id).map (·.composition)
  surfaceDistance p id := match scene.region? id with
    | some region => region.shape.surfaceDistance p
    | none => .infinity

end Scene
end Concordance
