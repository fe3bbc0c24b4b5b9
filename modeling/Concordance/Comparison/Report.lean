import Concordance.Binary64.Arithmetic
import Concordance.Decimal.Rounded

/-!
# Report on a comparison
-/

namespace Concordance

/-- The numbers of a report. -/
structure Report where
  sampled : Nat
  success : Nat
  failure : Nat
  ignored : Nat
  outside : Nat
  coveredRegions : Nat
  totalRegions : Nat
  /-- The mean distance of the failed points; none if no point failed. -/
  meanDistance : Option Binary64
  /-- The largest distance of a failed point; none if no point failed. -/
  maxDistance : Option Binary64
  deriving DecidableEq, Repr

namespace Report

/-- The share of a count in the sampled points, in percent; zero for an empty run. -/
def percentage (report : Report) (count : Nat) : Binary64 :=
  if report.sampled = 0 then .zero
  else .ofNat 100 * .ofNat count / .ofNat report.sampled

/-- The line of one kind of outcome. -/
def outcomeText (report : Report) (label : String) (count : Nat) : List Char :=
  "Number of ".toList ++ label.toList ++ "     : ".toList ++ Decimal.natText count ++
    " -> ".toList ++ (report.percentage count).fixedText 2 ++ "%\n".toList

/-- A distance, if there is one. -/
def distanceText : Option Binary64 → List Char
  | some d => d.scientificText
  | none => "n/a".toList

/-- The text of a report. -/
def text (report : Report) : List Char :=
  "\n---------------------------\n".toList ++
    "Reporting on geometry comparison\n".toList ++
    "---------------------------\n".toList ++
    "Number of SAMPLED points : ".toList ++ Decimal.natText report.sampled ++ ['\n'] ++
    report.outcomeText "SUCCESSFUL" report.success ++
    report.outcomeText "FAILED    " report.failure ++
    report.outcomeText "IGNORED   " report.ignored ++
    report.outcomeText "OUTSIDE   " report.outside ++
    "Number of COVERED volumes: ".toList ++ Decimal.natText report.coveredRegions ++ ['\n'] ++
    "Number of INPUT   volumes: ".toList ++ Decimal.natText report.totalRegions ++ ['\n'] ++
    "Average distance to surface for FAILED points: ".toList ++
    distanceText report.meanDistance ++ ['\n'] ++
    "Maximum distance to surface for FAILED points: ".toList ++
    distanceText report.maxDistance ++ ['\n']

end Report
end Concordance
