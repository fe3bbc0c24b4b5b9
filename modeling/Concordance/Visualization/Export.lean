import Concordance.Files.Store
import Concordance.Visualization.Texts

/-!
# Writing the files for visualization

Dataset, header and manifest are written in this order, and writing stops at the first file
that cannot be written.  So a manifest leads to a header, and a header to a dataset.
-/

namespace Concordance

/-- The paths of the three files. -/
structure VisualizationFiles where
  dataset : List Char
  header : List Char
  manifest : List Char
  deriving DecidableEq, Repr

/-- Why the files were not all written. -/
inductive ExportFault where
  | invalidBaseName (baseName : List Char)
  | unwritable (path : List Char) (fault : FileFault)
  deriving DecidableEq, Repr

/-- The wording of a fault. -/
def ExportFault.message : ExportFault → String
  | invalidBaseName baseName =>
    "invalid visualization base name: " ++ String.ofList (Text.quoted baseName)
  | unwritable path fault =>
    "failed to write " ++ String.ofList path ++ ": " ++ fault.message

namespace Visualization

/-- The paths of the three files in a directory. -/
def filesIn (directory raw : List Char) : VisualizationFiles where
  dataset := Path.join directory (datasetName raw)
  header := Path.join directory (headerName raw)
  manifest := Path.join directory (manifestName raw)

/-- The three files with their texts, in the order in which they are written. -/
def contents (failures : List FailedPoint) (directory raw : List Char) :
    List (List Char × List Char) :=
  let files := filesIn directory raw
  [(files.dataset, dataset failures),
    (files.header, header (datasetName raw) failures.length),
    (files.manifest, manifest raw)]

variable {ω : Type} [FileStore ω]

/-- Writes files one after the other, up to the first that cannot be written. -/
def writeAll (store : ω) : List (List Char × List Char) → Except ExportFault Unit × ω
  | [] => (.ok (), store)
  | (path, text) :: rest =>
    match FileStore.writePath store path (Utf8.encode text) with
    | .error fault => (.error (.unwritable path fault), store)
    | .ok store => writeAll store rest

/-- Writes the three files for a base name to a directory. -/
def save (store : ω) (failures : List FailedPoint) (baseName directory : List Char) :
    Except ExportFault VisualizationFiles × ω :=
  match rawName? baseName with
  | none => (.error (.invalidBaseName baseName), store)
  | some raw =>
    match writeAll store (contents failures directory raw) with
    | (.error fault, store) => (.error fault, store)
    | (.ok (), store) => (.ok (filesIn directory raw), store)

end Visualization
end Concordance
