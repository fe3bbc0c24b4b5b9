import Concordance.Comparison.Report
import Concordance.Point

/-!
# Statistics of a comparison

Counters of the four outcomes, the regions that were met, and a record of every failed point in
the order of the comparison.
-/

namespace Concordance

/-- What is kept of a failed point. -/
structure FailedPoint where
  position : Position
  /-- The number of the point in the trace. -/
  pointRank : Int64
  region : RegionId
  material : MaterialId
  /-- The distance to the surface of the region. -/
  distance : Binary64
  /-- The place of the point in the comparison, from zero on. -/
  sequenceRank : Nat
  deriving DecidableEq, Repr

/-- What is kept of a point that failed in a region. -/
def FailedPoint.of (p : SampledPoint) (region : RegionId) (distance : Binary64)
    (sequenceRank : Nat) : FailedPoint :=
  ⟨p.position, p.rank, region, p.material, distance, sequenceRank⟩

/-- The statistics of a comparison. -/
structure Statistics where
  success : Nat
  failure : Nat
  ignored : Nat
  outside : Nat
  /-- The regions met so far. -/
  covered : OrderedMap RegionId Unit
  /-- The failed points, in the order of the comparison. -/
  failures : List FailedPoint
  /-- The number of regions of the model. -/
  totalRegions : Nat

namespace Statistics

/-- The statistics before the first point, for a model with the given number of regions. -/
def initial (totalRegions : Nat) : Statistics := ⟨0, 0, 0, 0, .empty, [], totalRegions⟩

/-- The number of points counted. -/
def total (s : Statistics) : Nat := s.success + s.failure + s.ignored + s.outside

/-- Notes that a region was met. -/
def cover (s : Statistics) (region : RegionId) : Statistics :=
  { s with covered := s.covered.insert region () }

/-- Keeps a failed point. -/
def keepFailure (s : Statistics) (p : FailedPoint) : Statistics :=
  { s with failures := s.failures ++ [p] }

/-- The sum of a list of doubles, from the first to the last. -/
def sum (xs : List Binary64) : Binary64 := xs.foldl Binary64.add .zero

/-- The largest number of a list of doubles, the last of those that are equal to it; negative
infinity if the list holds no number. -/
def largest (xs : List Binary64) : Binary64 := xs.foldl Binary64.max .negInfinity

/-- The report on the statistics. -/
def report (s : Statistics) : Report :=
  let distances := s.failures.map (·.distance)
  { sampled := s.total
    success := s.success
    failure := s.failure
    ignored := s.ignored
    outside := s.outside
    coveredRegions := s.covered.size
    totalRegions := s.totalRegions
    meanDistance :=
      if distances.isEmpty then none else some (sum distances / .ofNat distances.length)
    maxDistance := if distances.isEmpty then none else some (largest distances) }

end Statistics
end Concordance
