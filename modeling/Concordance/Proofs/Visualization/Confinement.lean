import Concordance.Files.Journal
import Concordance.Proofs.Files.Path
import Concordance.Proofs.Visualization.Writing
import Mathlib.Data.List.Nodup

/-!
# The files for visualization stay in their directory

The stem of a base name may itself be `.` or `..`, and the directory may be any path.  Behind the
endings of the three files it makes a name all the same, so each file is one step below the
directory.

* `rawName?_eq_some_iff` and `rawName?_eq_none_iff` say which base names have a raw name, and
  which one.
* `IsChild` says that a path is one name below another.
* `save_confined` puts this together for every base name, directory and store.
-/

namespace Concordance

/-- The three files, in the order in which they are written. -/
def VisualizationFiles.paths (files : VisualizationFiles) : List (List Char) :=
  [files.dataset, files.header, files.manifest]

namespace Visualization

open Concordance.Path

/-! ## Raw names -/

/-- **A base name has a raw name exactly if it ends in a name**, and then it is its stem. -/
theorem rawName?_eq_some_iff {baseName raw : List Char} : rawName? baseName = some raw ↔
    ∃ name, EndsIn baseName (.normal name) ∧ IsStem name raw := by
  simp only [rawName?, Option.map_eq_some_iff, fileName?_eq_some_iff, stem_eq_iff]

/-- A base name without a raw name is empty or ends in a step of another kind. -/
theorem rawName?_eq_none_iff {baseName : List Char} : rawName? baseName = none ↔
    baseName = [] ∨ EndsIn baseName .root ∨ EndsIn baseName .current ∨ EndsIn baseName .parent := by
  rw [rawName?, Option.map_eq_none_iff, fileName?_eq_none_iff]

lemma rawName?_whole {baseName raw : List Char} (named : rawName? baseName = some raw) :
    raw ≠ [] ∧ '/' ∉ raw := by
  obtain ⟨name, ends, stem⟩ := rawName?_eq_some_iff.1 named
  exact ⟨stem.ne_nil ends.isName.nonempty, fun inside => ends.isName.whole (stem.subset inside)⟩

/-! ## The three paths -/

/-- A path is one name below another. -/
def IsChild (directory path : List Char) : Prop :=
  ∃ name, IsName name ∧ components path = components directory ++ [.normal name]

/-- The names of the three files. -/
def namesOf (raw : List Char) : List (List Char) :=
  [datasetName raw, headerName raw, manifestName raw]

lemma paths_eq (directory raw : List Char) :
    (filesIn directory raw).paths = (namesOf raw).map (join directory) := rfl

lemma paths_contents (failures : List FailedPoint) (directory raw : List Char) :
    (contents failures directory raw).map Prod.fst = (filesIn directory raw).paths := rfl

lemma isName_of_mem_namesOf {raw name : List Char} (whole : '/' ∉ raw)
    (member : name ∈ namesOf raw) : IsName name := by
  simp only [namesOf, List.mem_cons, List.not_mem_nil, or_false] at member
  rcases member with rfl | rfl | rfl
  · exact isName_append whole (by decide) (by decide)
  · exact isName_append whole (by decide) (by decide)
  · exact isName_append whole (by decide) (by decide)

lemma nodup_namesOf (raw : List Char) : (namesOf raw).Nodup := by
  have endings : (namesOf []).Nodup := by decide
  have same : namesOf raw = (namesOf []).map (raw ++ ·) := rfl
  rw [same]
  exact endings.map (List.append_right_injective raw)

/-- Different names lead to different places. -/
lemma join_injective {directory name name' : List Char} (named : IsName name)
    (named' : IsName name') (same : join directory name = join directory name') : name = name' := by
  have steps := congrArg components same
  rw [components_join named, components_join named', List.append_cancel_left_eq] at steps
  simpa using steps

lemma nodup_paths {raw : List Char} (directory : List Char) (whole : '/' ∉ raw) :
    (filesIn directory raw).paths.Nodup := by
  rw [paths_eq]
  refine (nodup_namesOf raw).map_on fun name member name' member' same => ?_
  exact join_injective (isName_of_mem_namesOf whole member) (isName_of_mem_namesOf whole member')
    same

lemma isChild_of_mem_paths {directory raw path : List Char} (whole : '/' ∉ raw)
    (member : path ∈ (filesIn directory raw).paths) : IsChild directory path := by
  rw [paths_eq] at member
  obtain ⟨name, named, rfl⟩ := List.mem_map.1 member
  exact ⟨name, isName_of_mem_namesOf whole named,
    components_join (isName_of_mem_namesOf whole named)⟩

/-! ## Saving -/

/-- Saving under a base name touches nothing but three files of the directory. -/
structure Confined {ω : Type} [FileStore ω] (baseName directory : List Char) (store : ω)
    (attempt : Except ExportFault VisualizationFiles × ω) : Prop where
  raw_iff : ∀ raw, rawName? baseName = some raw ↔
    ∃ name, EndsIn baseName (.normal name) ∧ IsStem name raw
  unnamed_iff : rawName? baseName = none ↔ baseName = [] ∨ EndsIn baseName .root ∨
    EndsIn baseName .current ∨ EndsIn baseName .parent
  raw_whole : ∀ raw, rawName? baseName = some raw → raw ≠ [] ∧ '/' ∉ raw
  /-- A base name is refused if it has no raw name, and nothing is written then. -/
  refused_iff : (∃ name, attempt.1 = .error (.invalidBaseName name)) ↔ rawName? baseName = none
  refused : rawName? baseName = none → attempt = (.error (.invalidBaseName baseName), store)
  /-- The three paths differ, and each is one name below the directory. -/
  paths : ∀ raw, rawName? baseName = some raw → (filesIn directory raw).paths.Nodup ∧
    ∀ path ∈ (filesIn directory raw).paths, IsChild directory path
  /-- What is written is written to these paths, and to all of them if saving succeeds. -/
  written : ∀ raw, rawName? baseName = some raw → ∃ written, Writes store written attempt.2 ∧
    written.map Prod.fst <+: (filesIn directory raw).paths
  complete : ∀ files, attempt.1 = .ok files → ∃ raw written, rawName? baseName = some raw ∧
    files = filesIn directory raw ∧ Writes store written attempt.2 ∧
    written.map Prod.fst = files.paths

lemma Saves.confined {ω : Type} [FileStore ω] {store : ω} {failures : List FailedPoint}
    {baseName directory : List Char} {attempt : Except ExportFault VisualizationFiles × ω}
    (h : Saves store failures baseName directory attempt) :
    Confined baseName directory store attempt where
  raw_iff _ := rawName?_eq_some_iff
  unnamed_iff := rawName?_eq_none_iff
  raw_whole _ := rawName?_whole
  refused_iff := by
    cases h with
    | unnamed nameless => exact iff_of_true ⟨_, rfl⟩ nameless
    | complete named _ => exact iff_of_false nofun (by rw [named]; nofun)
    | refused named _ _ _ => exact iff_of_false nofun (by rw [named]; nofun)
  refused nameless := by
    cases h with
    | unnamed _ => rfl
    | complete named _ => cases named.symm.trans nameless
    | refused named _ _ _ => cases named.symm.trans nameless
  paths raw named := ⟨nodup_paths directory (rawName?_whole named).2,
    fun _ => isChild_of_mem_paths (rawName?_whole named).2⟩
  written raw named := by
    cases h with
    | unnamed nameless => cases named.symm.trans nameless
    | complete named' writes =>
        cases named.symm.trans named'
        exact ⟨_, writes, (paths_contents failures directory raw).symm ▸ List.prefix_rfl⟩
    | refused named' split writes _ =>
        cases named.symm.trans named'
        refine ⟨_, writes, ?_⟩
        rw [← paths_contents failures, split, List.map_append]
        exact List.prefix_append _ _
  complete files done := by
    cases h with
    | unnamed _ => cases done
    | complete named writes =>
        cases done
        exact ⟨_, _, named, rfl, writes, paths_contents failures directory _⟩
    | refused _ _ _ _ => cases done

/-- **The files for visualization stay in their directory**, whatever the base name. -/
theorem save_confined {ω : Type} [FileStore ω] (store : ω) (failures : List FailedPoint)
    (baseName directory : List Char) :
    Confined baseName directory store (save store failures baseName directory) :=
  (save_cases store failures baseName directory).confined

/-- The stem of a name may be a point: the files are called `..failedpoints.dat` and so on, and
they are names in their directory.  Here the last of them is refused. -/
theorem save_confined_of_point :
    let journal : Journal := ⟨[], [(['o', '/', '.'] ++ ".points".toList, .isDirectory)], []⟩
    let attempt := save journal [] ['a', '/', '.', '.', 'a', '/', '/', '.'] ['o']
    rawName? ['a', '/', '.', '.', 'a', '/', '/', '.'] = some ['.'] ∧
      Confined ['a', '/', '.', '.', 'a', '/', '/', '.'] ['o'] journal attempt ∧
      attempt.2.written.map Prod.fst = [['o', '/', '.'] ++ ".failedpoints.dat".toList,
        ['o', '/', '.'] ++ ".failedpoints.general".toList] := by
  intro journal attempt
  refine ⟨by decide, ?_, by decide +kernel⟩
  exact save_confined journal [] ['a', '/', '.', '.', 'a', '/', '/', '.'] ['o']

end Visualization
end Concordance
