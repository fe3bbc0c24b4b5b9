import Concordance.Proofs.Visualization.Confinement
import Concordance.Proofs.Visualization.Dataset

/-!
# The files for visualization agree with each other

The manifest names the header, the header names the dataset and says what its lines hold, and
the dataset holds just that.  None of them is written before the file it leads to.

* `IsDatasetOf`, `IsHeaderOf` and `IsManifestOf` say what the three texts tell a reader.
* `header_injective` says that a header names one dataset and one number of points, although the
  name may hold newlines of its own.
* `InOrder` says how far an attempt to save has come, whichever file the store refuses.
* `save_in_order` puts this together.
-/

namespace Concordance.Visualization

open Binary64 Decimal Text

/-! ## The dataset -/

/-- What the fields of a failed point stand for. -/
inductive Denotes (p : FailedPoint) : String → Binary64 → Prop
  | x : Denotes p "x" p.position.x
  | y : Denotes p "y" p.position.y
  | z : Denotes p "z" p.position.z
  | point : Denotes p "pointID" (ofInt p.pointRank.toInt)
  | region : Denotes p "cellID" (ofInt p.region.value.toInt)
  | material : Denotes p "materialID" (ofInt p.material.value.toInt)
  | distance : Denotes p "dist" p.distance
  | place : Denotes p "rank" (ofNat p.sequenceRank)

/-- The line of a failed point: a token for each of the eight fields, in their order, with single
blanks between them and no white space within. -/
structure IsRow (p : FailedPoint) (line : List Char) (tokens : List (List Char)) : Prop where
  line_eq : line = [' '].intercalate tokens
  eight : tokens.length = 8
  solid : ∀ token ∈ tokens, IsField token
  fields : List.Forall₂ (fun name token => ∃ x, Denotes p name x ∧
    token = roundedScientificText 15 x) fieldNames tokens

/-- A dataset has one line for each failed point, and each line ends in a newline. -/
structure IsDatasetOf (text : List Char) (failures : List FailedPoint)
    (lines : List (List Char)) : Prop where
  text_eq : text = lines.flatMap (· ++ ['\n'])
  whole : ∀ line ∈ lines, '\n' ∉ line
  rows : List.Forall₂ (fun p line => ∃ tokens, IsRow p line tokens) failures lines

lemma denotes_record (p : FailedPoint) : List.Forall₂ (Denotes p) fieldNames p.record :=
  .cons .x <| .cons .y <| .cons .z <| .cons .point <| .cons .region <| .cons .material <|
    .cons .distance <| .cons .place .nil

lemma isRow_fieldsOf (p : FailedPoint) : IsRow p ([' '].intercalate (fieldsOf p)) (fieldsOf p) where
  line_eq := rfl
  eight := rfl
  solid := isField_of_mem_fieldsOf p
  fields := by
    rw [fieldsOf, List.forall₂_map_right_iff]
    exact (denotes_record p).imp fun name x denotes => ⟨x, denotes, rfl⟩

/-- **Every dataset is a dataset of its failed points**, whatever numbers they hold. -/
theorem isDatasetOf_dataset (failures : List FailedPoint) : IsDatasetOf (dataset failures) failures
    (failures.map fun p => [' '].intercalate (fieldsOf p)) where
  text_eq := dataset_eq_flatMap failures
  whole := by
    intro line member
    obtain ⟨p, _, rfl⟩ := List.mem_map.1 member
    exact newline_not_mem_intercalate (isField_of_mem_fieldsOf p)
  rows := by
    rw [List.forall₂_map_right_iff, List.forall₂_same]
    exact fun p _ => ⟨fieldsOf p, isRow_fieldsOf p⟩

lemma IsDatasetOf.length_eq {text : List Char} {failures : List FailedPoint}
    {lines : List (List Char)} (h : IsDatasetOf text failures lines) :
    lines.length = failures.length := h.rows.length_eq.symm

/-! ## The header -/

/-- The values that lines state of a property. -/
def valuesIn (property : String) (lines : List (List Char)) : List (List Char) :=
  lines.filterMap (behind? (property.toList ++ " = ".toList))

/-- The entries of a value. -/
def entriesOf (value : List Char) : List (List Char) := (pieces (· == ',') value).map trim

/-- A header begins with the name of the dataset, and states each of the others once: the number
of points, and eight entries that describe the fields. -/
structure IsHeaderOf (text name : List Char) (count : Nat) (lines : List (List Char)) : Prop where
  text_eq : text = "file = ".toList ++ name ++ '\n' :: lines.flatMap (· ++ ['\n'])
  whole : ∀ line ∈ lines, '\n' ∉ line
  points : valuesIn "points" lines = [natText count]
  field : (valuesIn "field" lines).map entriesOf = [fieldNames.map String.toList]
  structures : (valuesIn "structure" lines).map entriesOf = [List.replicate 8 "scalar".toList]
  types : (valuesIn "type" lines).map entriesOf = [List.replicate 8 "double".toList]

/-- A property with its values, without the newline. -/
def listed (property : String) (values : List String) : List Char :=
  property.toList ++ " = ".toList ++ separated [',', ' '] (values.map String.toList)

/-- The lines of a header behind the name of the dataset. -/
def statements (count : Nat) : List (List Char) :=
  ["points = ".toList ++ natText count, "format = ascii".toList, "interleaving = field".toList,
    listed "field" fieldNames, listed "structure" (fieldNames.map fun _ => "scalar"),
    listed "type" (fieldNames.map fun _ => "double"), [], "end".toList]

lemma listing_eq (property : String) (values : List String) :
    listing property values = listed property values ++ ['\n'] := rfl

lemma header_eq (name : List Char) (count : Nat) : header name count
    = "file = ".toList ++ name ++ '\n' :: (statements count).flatMap (· ++ ['\n']) := by
  have format : "format = ascii\n".toList = "format = ascii".toList ++ ['\n'] := by decide
  have interleaving : "interleaving = field\n".toList = "interleaving = field".toList ++ ['\n'] := by
    decide
  have last : "\nend\n".toList = '\n' :: ("end".toList ++ ['\n']) := by decide
  delta header statements
  rewrite [listing_eq, listing_eq, listing_eq, format, interleaving, last]
  simp only [List.flatMap_cons, List.flatMap_nil, List.append_assoc, List.cons_append,
    List.append_nil, List.nil_append]

lemma newline_not_mem_natText (n : Nat) : '\n' ∉ natText n := by
  intro member
  exact absurd (isDigit_of_mem_natText member) (by decide)

lemma newline_not_mem_statements (count : Nat) : ∀ line ∈ statements count, '\n' ∉ line := by
  have first : '\n' ∉ "points = ".toList ++ natText count := by
    rw [List.mem_append]
    rintro (inside | inside)
    · exact absurd inside (by decide)
    · exact newline_not_mem_natText count inside
  have others : ∀ line ∈ (statements 0).tail, '\n' ∉ line := by decide
  exact List.forall_mem_cons.2 ⟨first, others⟩

/-- **Every header is a header of its dataset.** -/
theorem isHeaderOf_header (name : List Char) (count : Nat) :
    IsHeaderOf (header name count) name count (statements count) where
  text_eq := header_eq name count
  whole := newline_not_mem_statements count
  points := rfl
  field := by
    have found : valuesIn "field" (statements count)
      = [separated [',', ' '] (fieldNames.map String.toList)] := rfl
    rw [found]
    decide
  structures := by
    have found : valuesIn "structure" (statements count)
      = [separated [',', ' '] ((fieldNames.map fun _ => "scalar").map String.toList)] := rfl
    rw [found]
    decide
  types := by
    have found : valuesIn "type" (statements count)
      = [separated [',', ' '] ((fieldNames.map fun _ => "double").map String.toList)] := rfl
    rw [found]
    decide

lemma natText_injective {n m : Nat} (same : natText n = natText m) : n = m := by
  rw [← ofDigitChars_natText n, same, ofDigitChars_natText]

/-- **A header names one dataset and one number of points**, whatever the name. -/
theorem header_injective {name name' : List Char} {count count' : Nat}
    (same : header name count = header name' count') : name = name' ∧ count = count' := by
  have blank : ∀ n : Nat, ' ' ∉ natText n := fun n member =>
    absurd (isDigit_of_mem_natText member) (by decide)
  -- the number stands behind the last blank of the part that is not the same for all headers
  have split : ∀ (name : List Char) (count : Nat), header name count = "file = ".toList ++
      ((name ++ '\n' :: "points =".toList) ++ ' ' :: natText count) ++
      ('\n' :: (statements 0).tail.flatMap (· ++ ['\n'])) := by
    intro name count
    have tail : (statements count).tail = (statements 0).tail := rfl
    have cons : statements count = ("points =".toList ++ ' ' :: natText count) ::
      (statements count).tail := rfl
    rw [header_eq, cons, tail, List.flatMap_cons]
    simp only [List.append_assoc, List.cons_append, List.nil_append]
  rw [split, split] at same
  obtain ⟨front, digits⟩ := append_cons_inj (blank count) (blank count')
    (List.append_cancel_left (List.append_cancel_right same))
  exact ⟨List.append_cancel_right front, natText_injective digits⟩

/-! ## The manifest -/

/-- A manifest is one line that names the header. -/
def IsManifestOf (text name : List Char) : Prop := text = "name ".toList ++ name ++ ['\n']

/-! ## The order of writing -/

/-- How far an attempt has come that writes the files of a plan in order: it succeeds if it has
written them all, and otherwise its fault is that of the next one. -/
structure InOrder {ω : Type} [FileStore ω] (store : ω) (plan : List (List Char × List Char))
    (files : VisualizationFiles) (attempt : Except ExportFault VisualizationFiles × ω)
    (written rest : List (List Char × List Char)) : Prop where
  split : plan = written ++ rest
  writes : Writes store written attempt.2
  ok_iff : attempt.1 = .ok files ↔ rest = []
  error_iff : ∀ fault, attempt.1 = .error fault ↔ ∃ path text later cause,
    rest = (path, text) :: later ∧
    FileStore.writePath attempt.2 path (Utf8.encode text) = .error cause ∧
    fault = .unwritable path cause
  /-- A header that is written leads to a dataset that is written. -/
  header : files.header ∈ written.map Prod.fst → files.dataset ∈ written.map Prod.fst
  /-- A manifest that is written leads to a header that is written. -/
  manifest : files.manifest ∈ written.map Prod.fst →
    files.header ∈ written.map Prod.fst ∧ files.dataset ∈ written.map Prod.fst

/-- What is in a list comes behind all that is before it in a longer one. -/
lemma mem_of_earlier {α : Type} (front : List α) {later written : List α} {a b : α}
    (within : written <+: front ++ a :: later) (fresh : a ∉ front) (earlier : b ∈ front)
    (member : a ∈ written) : b ∈ written := by
  rcases List.prefix_or_prefix_of_prefix within (List.prefix_append front (a :: later)) with
    short | long
  · exact absurd (short.subset member) fresh
  · exact long.subset earlier

lemma InOrder.of_split {ω : Type} [FileStore ω] {store : ω}
    {plan written rest : List (List Char × List Char)} {files : VisualizationFiles}
    {attempt : Except ExportFault VisualizationFiles × ω}
    (paths : plan.map Prod.fst = files.paths) (distinct : files.paths.Nodup)
    (split : plan = written ++ rest) (writes : Writes store written attempt.2)
    (ok_iff : attempt.1 = .ok files ↔ rest = [])
    (error_iff : ∀ fault, attempt.1 = .error fault ↔ ∃ path text later cause,
      rest = (path, text) :: later ∧
      FileStore.writePath attempt.2 path (Utf8.encode text) = .error cause ∧
      fault = .unwritable path cause) :
    InOrder store plan files attempt written rest := by
  have within : written.map Prod.fst <+: [files.dataset] ++ files.header :: [files.manifest] := by
    change _ <+: files.paths
    rw [← paths, split, List.map_append]
    exact List.prefix_append _ _
  simp only [VisualizationFiles.paths, List.nodup_cons, List.mem_cons, List.not_mem_nil, or_false,
    not_or] at distinct
  obtain ⟨⟨first, second⟩, third, _⟩ := distinct
  refine ⟨split, writes, ok_iff, error_iff, ?_, fun member => ⟨?_, ?_⟩⟩
  · exact mem_of_earlier [files.dataset] within (by simpa using Ne.symm first) (by simp)
  · exact mem_of_earlier [files.dataset, files.header] within
      (by simpa using ⟨Ne.symm second, Ne.symm third⟩) (by simp) member
  · exact mem_of_earlier [files.dataset, files.header] within
      (by simpa using ⟨Ne.symm second, Ne.symm third⟩) (by simp) member

lemma Saves.inOrder {ω : Type} [FileStore ω] {store : ω} {failures : List FailedPoint}
    {baseName raw directory : List Char} {attempt : Except ExportFault VisualizationFiles × ω}
    (named : rawName? baseName = some raw)
    (h : Saves store failures baseName directory attempt) : ∃ written rest,
    InOrder store (contents failures directory raw) (filesIn directory raw) attempt written rest := by
  have paths := paths_contents failures directory raw
  have distinct := nodup_paths directory (rawName?_whole named).2
  cases h with
  | unnamed nameless => cases named.symm.trans nameless
  | complete named' writes =>
      cases named.symm.trans named'
      refine ⟨_, [], .of_split paths distinct (List.append_nil _).symm writes ?_ ?_⟩
      · exact iff_of_true rfl rfl
      · rintro fault
        exact iff_of_false nofun (by rintro ⟨_, _, _, _, refuses, _⟩; cases refuses)
  | refused named' split writes refuses =>
      cases named.symm.trans named'
      refine ⟨_, _, .of_split paths distinct split writes ?_ ?_⟩
      · exact iff_of_false nofun (List.cons_ne_nil _ _)
      · rintro fault
        constructor
        · rintro ⟨⟩
          exact ⟨_, _, _, _, rfl, refuses, rfl⟩
        · rintro ⟨path, text, later, cause, same, refuses', rfl⟩
          cases same
          cases refuses.symm.trans refuses'
          rfl

/-- What the three texts tell a reader: each leads to the next one by its name in the directory,
and the dataset holds what the header says. -/
structure Agree (failures : List FailedPoint) (raw data head lead : List Char) : Prop where
  data_lines : ∃ lines, IsDatasetOf data failures lines ∧ lines.length = failures.length
  head_lines : ∃ lines, IsHeaderOf head (datasetName raw) failures.length lines
  head_only : ∀ name count, head = header name count →
    name = datasetName raw ∧ count = failures.length
  lead_name : IsManifestOf lead (headerName raw)

lemma agree_texts (failures : List FailedPoint) (raw : List Char) :
    Agree failures raw (dataset failures) (header (datasetName raw) failures.length)
      (manifest raw) where
  data_lines := ⟨_, isDatasetOf_dataset failures, (isDatasetOf_dataset failures).length_eq⟩
  head_lines := ⟨_, isHeaderOf_header _ _⟩
  head_only name count same := by
    obtain ⟨rfl, rfl⟩ := header_injective same
    exact ⟨rfl, rfl⟩
  lead_name := rfl

/-- **The files for visualization agree, and are written in the order in which they need each
other**, whatever the failed points, the base name, and the files that the store refuses. -/
theorem save_in_order {ω : Type} [FileStore ω] (store : ω) (failures : List FailedPoint)
    {baseName raw : List Char} (directory : List Char) (named : rawName? baseName = some raw) :
    ∃ data head lead written rest, Agree failures raw data head lead ∧
      InOrder store [(Path.join directory (datasetName raw), data),
          (Path.join directory (headerName raw), head),
          (Path.join directory (manifestName raw), lead)] (filesIn directory raw)
        (save store failures baseName directory) written rest := by
  obtain ⟨written, rest, order⟩ :=
    (save_cases store failures baseName directory).inOrder named
  exact ⟨_, _, _, written, rest, agree_texts failures raw, order⟩

/-- The header is refused: the dataset of a point without a single ordinary number is written, and
no manifest. -/
theorem save_in_order_without_header :
    let p : FailedPoint := ⟨⟨.nan, .negInfinity, .zero⟩, Int64.minValue, ⟨0⟩, ⟨Int64.maxValue⟩,
      .nan, UInt64.size - 1⟩
    let journal : Journal := ⟨[], [("v.failedpoints.general".toList, .isDirectory)], []⟩
    let attempt := save journal [p] ['r', '/', 'v', '.', 't'] []
    rawName? ['r', '/', 'v', '.', 't'] = some ['v'] ∧
      (∃ data head lead written rest, Agree [p] ['v'] data head lead ∧
        InOrder journal [(Path.join [] (datasetName ['v']), data),
          (Path.join [] (headerName ['v']), head),
          (Path.join [] (manifestName ['v']), lead)] (filesIn [] ['v']) attempt written rest) ∧
      attempt.1 = .error (.unwritable "v.failedpoints.general".toList .isDirectory) ∧
      attempt.2.written.map Prod.fst = ["v.failedpoints.dat".toList] := by
  intro p journal attempt
  have named : rawName? ['r', '/', 'v', '.', 't'] = some ['v'] := by decide
  exact ⟨named, save_in_order journal [p] [] named, by decide +kernel, by decide +kernel⟩

end Concordance.Visualization
