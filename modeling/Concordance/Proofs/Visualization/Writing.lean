import Concordance.Visualization.Export
import Mathlib.Tactic.Lemma

/-!
# Writing stops at the first file that cannot be written

Files are written one after the other, so what has been written at the end is the beginning of
what was to be written, and a fault is that of the file next in order.

* `Writes` relates a store to what it becomes when files are written to it.
* `Halts` says why no further file is written.
* `writeAll_spec` and `save_cases` describe every attempt with these two, whatever the store
  refuses.
-/

namespace Concordance.Visualization

variable {ω : Type} [FileStore ω]

/-- Files are written one after the other, none of them in vain. -/
inductive Writes : ω → List (List Char × List Char) → ω → Prop
  | none {store : ω} : Writes store [] store
  | one {store next left : ω} {path text : List Char} {rest : List (List Char × List Char)}
      (wrote : FileStore.writePath store path (Utf8.encode text) = .ok next)
      (later : Writes next rest left) : Writes store ((path, text) :: rest) left

/-- Why writing ends where it does: there is nothing left, or the next file is refused. -/
inductive Halts (left : ω) : List (List Char × List Char) → Except ExportFault Unit → Prop
  | complete : Halts left [] (.ok ())
  | refused {path text : List Char} {rest : List (List Char × List Char)} {fault : FileFault}
      (refuses : FileStore.writePath left path (Utf8.encode text) = .error fault) :
      Halts left ((path, text) :: rest) (.error (.unwritable path fault))

/-- **Every attempt writes the first of the files**, and halts for a reason. -/
theorem writeAll_spec (store : ω) (files : List (List Char × List Char)) :
    ∃ written rest, files = written ++ rest ∧ Writes store written (writeAll store files).2 ∧
      Halts (writeAll store files).2 rest (writeAll store files).1 := by
  induction files generalizing store with
  | nil => exact ⟨[], [], rfl, .none, .complete⟩
  | cons file files ih =>
      obtain ⟨path, text⟩ := file
      cases attempt : FileStore.writePath store path (Utf8.encode text) with
      | error fault =>
          simp only [writeAll, attempt]
          exact ⟨[], _, rfl, .none, .refused attempt⟩
      | ok next =>
          obtain ⟨written, rest, rfl, writes, halts⟩ := ih next
          simp only [writeAll, attempt]
          exact ⟨(path, text) :: written, rest, rfl, .one attempt writes, halts⟩

/-- What an attempt to save has done to the store, and how it ended. -/
inductive Saves (store : ω) (failures : List FailedPoint) (baseName directory : List Char) :
    Except ExportFault VisualizationFiles × ω → Prop
  /-- The base name has no raw name, and nothing is written. -/
  | unnamed (nameless : rawName? baseName = none) :
      Saves store failures baseName directory (.error (.invalidBaseName baseName), store)
  | complete {raw : List Char} {left : ω} (named : rawName? baseName = some raw)
      (writes : Writes store (contents failures directory raw) left) :
      Saves store failures baseName directory (.ok (filesIn directory raw), left)
  | refused {raw path text : List Char} {written rest : List (List Char × List Char)} {left : ω}
      {fault : FileFault} (named : rawName? baseName = some raw)
      (split : contents failures directory raw = written ++ (path, text) :: rest)
      (writes : Writes store written left)
      (refuses : FileStore.writePath left path (Utf8.encode text) = .error fault) :
      Saves store failures baseName directory (.error (.unwritable path fault), left)

theorem save_cases (store : ω) (failures : List FailedPoint) (baseName directory : List Char) :
    Saves store failures baseName directory (save store failures baseName directory) := by
  rw [save]
  cases named : rawName? baseName with
  | none => exact .unnamed named
  | some raw =>
      obtain ⟨written, rest, split, writes, halts⟩ :=
        writeAll_spec store (contents failures directory raw)
      dsimp only
      generalize writeAll store (contents failures directory raw) = attempt at writes halts ⊢
      obtain ⟨result, left⟩ := attempt
      cases halts with
      | complete =>
          rw [List.append_nil] at split
          exact .complete named (split ▸ writes)
      | refused refuses => exact .refused named split writes refuses

end Concordance.Visualization
