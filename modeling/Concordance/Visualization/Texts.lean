import Concordance.Comparison.Statistics
import Concordance.Files.Path
import Concordance.Text.Quoted

/-!
# Texts for visualization

The failed points of a comparison are written to three files that lead to each other: the
manifest names the header, and the header names and describes the dataset.

* `Visualization.rawName?` is the name that the three files have in common.
* `Visualization.dataset`, `header` and `manifest` are their texts.
-/

namespace Concordance

/-- The eight numbers of a failed point. -/
def FailedPoint.record (p : FailedPoint) : List Binary64 :=
  [p.position.x, p.position.y, p.position.z, .ofInt p.pointRank.toInt,
    .ofInt p.region.value.toInt, .ofInt p.material.value.toInt, p.distance,
    .ofNat p.sequenceRank]

namespace Visualization

/-- The names of the eight numbers. -/
def fieldNames : List String :=
  ["x", "y", "z", "pointID", "cellID", "materialID", "dist", "rank"]

/-- A base name without its directories and its last extension; none if it does not end in a
name. -/
def rawName? (baseName : List Char) : Option (List Char) :=
  (Path.fileName? baseName).map Path.stem

/-- The name of the dataset. -/
def datasetName (raw : List Char) : List Char := raw ++ ".failedpoints.dat".toList

/-- The name of the header. -/
def headerName (raw : List Char) : List Char := raw ++ ".failedpoints.general".toList

/-- The name of the manifest. -/
def manifestName (raw : List Char) : List Char := raw ++ ".points".toList

/-- Texts with a separator between them. -/
def separated (separator : List Char) : List (List Char) → List Char
  | [] => []
  | [text] => text
  | text :: rest => text ++ separator ++ separated separator rest

/-- The line of a failed point. -/
def datasetLine (p : FailedPoint) : List Char :=
  separated [' '] (p.record.map (Binary64.roundedScientificText 15)) ++ ['\n']

/-- The dataset: a line for each failed point, in the order of the comparison. -/
def dataset (failures : List FailedPoint) : List Char := failures.flatMap datasetLine

/-- A property of all eight numbers, by name. -/
def listing (property : String) (values : List String) : List Char :=
  property.toList ++ " = ".toList ++ separated [',', ' '] (values.map String.toList) ++ ['\n']

/-- The header of a dataset with the given file name and number of lines. -/
def header (datasetName : List Char) (count : Nat) : List Char :=
  "file = ".toList ++ datasetName ++ '\n' :: "points = ".toList ++ Decimal.natText count ++
    '\n' :: "format = ascii\n".toList ++ "interleaving = field\n".toList ++
    listing "field" fieldNames ++ listing "structure" (fieldNames.map fun _ => "scalar") ++
    listing "type" (fieldNames.map fun _ => "double") ++ "\nend\n".toList

/-- The manifest for a raw name. -/
def manifest (raw : List Char) : List Char := "name ".toList ++ headerName raw ++ ['\n']

end Visualization
end Concordance
