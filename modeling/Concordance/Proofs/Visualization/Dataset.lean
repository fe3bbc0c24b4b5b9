import Concordance.Proofs.Decimal.Rounded
import Concordance.Proofs.Json.Records
import Concordance.Visualization.Texts

/-!
# What a dataset says of the failed points

A dataset has a line for each failed point and eight fields on a line, and all of them are found
again (`readDataset?_dataset`).  A field has sixteen digits, and neighbouring doubles need up to
seventeen to be told apart, so the numbers are those of the failed point only as far as `Kept`
says: `record_not_always_kept` is a point that comes back as another one.

* `readDataset?` reads a dataset.
* `dataset_keeps` compares the rows with the failed points, number by number.
* `identifiers_kept` says that what names a point, a region or a material is not changed, unless
  it has more than fifty-three binary digits.
-/

namespace Concordance.Visualization

open Binary64 Decimal Text

/-! ## The reader -/

/-- The lines of a text, without their newlines. -/
def linesOfText (text : List Char) : List (List Char) :=
  let lines := pieces (· == '\n') text
  if lines.getLast? = some [] then lines.dropLast else lines

/-- Reads a dataset: the fields of a line are its words, and each of them is a double. -/
def readDataset? (text : List Char) : Option (List (List Binary64)) :=
  (linesOfText text).mapM fun line => (words line).mapM ofText?

/-! ## Lines and fields -/

lemma separated_eq_intercalate (separator : List Char) (texts : List (List Char)) :
    separated separator texts = separator.intercalate texts := by
  induction texts with
  | nil => rfl
  | cons text rest ih =>
      cases rest with
      | nil => rw [separated, List.intercalate_singleton]
      | cons second rest =>
          change text ++ separator ++ separated separator (second :: rest) = _
          rw [ih, List.intercalate_cons_cons]

/-- The fields of a failed point. -/
def fieldsOf (p : FailedPoint) : List (List Char) := p.record.map (roundedScientificText 15)

lemma isField_of_mem_fieldsOf (p : FailedPoint) : ∀ field ∈ fieldsOf p, IsField field := by
  intro field member
  obtain ⟨x, _, rfl⟩ := List.mem_map.1 member
  exact isField_roundedScientificText 15 x

lemma dataset_eq_flatMap (failures : List FailedPoint) :
    dataset failures
      = (failures.map fun p => [' '].intercalate (fieldsOf p)).flatMap (· ++ ['\n']) := by
  rw [dataset, List.flatMap_map]
  refine List.flatMap_congr fun p _ => ?_
  rw [datasetLine, separated_eq_intercalate, ← fieldsOf]

/-- A dataset has a line for each failed point. -/
lemma linesOfText_dataset (failures : List FailedPoint) :
    linesOfText (dataset failures) = failures.map fun p => [' '].intercalate (fieldsOf p) := by
  have whole : ∀ line ∈ failures.map fun p => [' '].intercalate (fieldsOf p),
      ∀ c ∈ line, (c == '\n') = false := by
    intro line member c inside
    obtain ⟨p, _, rfl⟩ := List.mem_map.1 member
    refine beq_false_of_ne fun same => ?_
    exact newline_not_mem_intercalate (isField_of_mem_fieldsOf p) (same ▸ inside)
  have cut : pieces (· == '\n') ((failures.map fun p => [' '].intercalate (fieldsOf p)).flatMap
      (· ++ ['\n'])) = (failures.map fun p => [' '].intercalate (fieldsOf p)) ++ [[]] :=
    pieces_flatMap_append (by decide) whole
  rw [linesOfText, dataset_eq_flatMap, cut]
  simp

/-- **A dataset is read line by line and field by field**, each field as the word that sixteen
digits keep. -/
theorem readDataset?_dataset (failures : List FailedPoint) : readDataset? (dataset failures)
    = some (failures.map fun p => p.record.map (keepDigits 16)) := by
  rw [readDataset?, linesOfText_dataset, Json.Value.mapM_eq_some_iff, List.forall₂_map_left_iff,
    List.forall₂_map_right_iff, List.forall₂_same]
  intro p _
  rw [words_intercalate (isField_of_mem_fieldsOf p), Json.Value.mapM_eq_some_iff, fieldsOf,
    List.forall₂_map_left_iff, List.forall₂_map_right_iff, List.forall₂_same]
  intro x _
  exact ofText?_roundedScientificText 15 x

/-! ## The numbers -/

/-- **A dataset keeps the failed points as far as sixteen digits go.** -/
theorem dataset_keeps (failures : List FailedPoint) :
    ∃ rows, readDataset? (dataset failures) = some rows ∧
      List.Forall₂ (fun p row => List.Forall₂ (Kept 16) p.record row) failures rows := by
  refine ⟨_, readDataset?_dataset failures, ?_⟩
  rw [List.forall₂_map_right_iff, List.forall₂_same]
  intro p _
  rw [List.forall₂_map_right_iff, List.forall₂_same]
  exact fun x _ => kept_keepDigits (by decide) x

/-- Sixteen digits are one too few for `0.1 + 0.2`, which is read back as `0.3`. -/
theorem record_not_always_kept :
    let p : FailedPoint :=
      ⟨⟨⟨0x3fd3333333333334⟩, zero, zero⟩, 1, ⟨2⟩, ⟨3⟩, ⟨0x3fe0000000000000⟩, 0⟩
    (∀ x ∈ p.record, x.isNaN = false) ∧ readDataset? (dataset [p]) ≠ some [p.record] := by
  intro p
  refine ⟨by decide +kernel, ?_⟩
  have place : lastPlace 16 0x3fd3333333333334 = -16 :=
    lastPlace_of_bounds (k := 323) (by decide +kernel) (by decide +kernel)
  have rounded : roundedSteps 16 0x3fd3333333333334 = 3000000000000000 := by
    rw [roundedSteps, steps, place]
    decide +kernel
  have digits : leading 16 0x3fd3333333333334 = ⟨3000000000000000, -16⟩ := by
    rw [leading_of_pos (by decide), rounded, place]
    decide
  have word : (⟨0x3fd3333333333334⟩ : Binary64).magnitude = 0x3fd3333333333334 := by decide
  have changed : keepDigits 16 ⟨0x3fd3333333333334⟩ ≠ ⟨0x3fd3333333333334⟩ := by
    rw [keepDigits_of_isFinite (by decide), word, digits]
    decide +kernel
  rw [readDataset?_dataset]
  intro same
  simp only [List.map_cons, List.map_nil, FailedPoint.record, Option.some.injEq, List.cons.injEq,
    p] at same
  exact changed same.1.1

/-! ## The identifiers -/

/-- What names a failed point, its region and its material, behind its place in the row. -/
def identifiers (p : FailedPoint) : List (Nat × Int) :=
  [(3, p.pointRank.toInt), (4, p.region.value.toInt), (5, p.material.value.toInt),
    (7, p.sequenceRank)]

lemma ofInt_natCast (n : Nat) : ofInt n = ofNat n := by
  have notNegative : decide ((n : Int) < 0) = false := decide_eq_false (by omega)
  rw [ofInt, ofNat, notNegative, Int.natAbs_natCast]

lemma getElem?_record_of_identifiers {p : FailedPoint} :
    ∀ entry ∈ identifiers p, p.record[entry.1]? = some (ofInt entry.2) := by
  simp [identifiers, FailedPoint.record, ofInt_natCast]

/-- **Identifiers below `2 ^ 53` are read back from a dataset as they were.** -/
theorem identifiers_kept (failures : List FailedPoint) :
    ∃ rows, readDataset? (dataset failures) = some rows ∧
      List.Forall₂ (fun p row => ∀ entry ∈ identifiers p, entry.2.natAbs < 2 ^ 53 →
        row[entry.1]? = some (ofInt entry.2)) failures rows := by
  refine ⟨_, readDataset?_dataset failures, ?_⟩
  rw [List.forall₂_map_right_iff, List.forall₂_same]
  intro p _ entry member small
  have kept := eq_of_kept_ofInt small (kept_keepDigits (by decide) _)
  rw [List.getElem?_map, getElem?_record_of_identifiers entry member, Option.map_some, kept]

end Concordance.Visualization
