import Concordance.Comparison.Report
import Concordance.Proofs.Decimal.Rounded

/-!
# The lines of a report

A report is thirteen lines whatever its numbers are: an empty one, a heading between two rules, and
a line for each number.

* `Text.ofLines` is the text that some lines make up.
* `Report.lines` spells the lines out, with counts in their usual text.
* `Report.text_eq_lines` says that these lines are the text, and `Report.newline_not_mem_lines`
  that the text holds no others.
-/

namespace Concordance

/-- The text of some lines, each with its newline. -/
def Text.ofLines (lines : List String) : List Char :=
  lines.flatMap fun line => line.toList ++ ['\n']

namespace Report

open Text Decimal

/-- A count with its share in the sampled points. -/
def shareText (report : Report) (count : Nat) : String :=
  toString count ++ " -> " ++ String.ofList ((report.percentage count).fixedText 2) ++ "%"

/-- A distance, or that there is none. -/
def distanceField (distance : Option Binary64) : String :=
  (distance.map fun d => String.ofList d.scientificText).getD "n/a"

/-- The lines of a report. -/
def lines (report : Report) : List String :=
  ["",
    "---------------------------",
    "Reporting on geometry comparison",
    "---------------------------",
    "Number of SAMPLED points : " ++ toString report.sampled,
    "Number of SUCCESSFUL     : " ++ report.shareText report.success,
    "Number of FAILED         : " ++ report.shareText report.failure,
    "Number of IGNORED        : " ++ report.shareText report.ignored,
    "Number of OUTSIDE        : " ++ report.shareText report.outside,
    "Number of COVERED volumes: " ++ toString report.coveredRegions,
    "Number of INPUT   volumes: " ++ toString report.totalRegions,
    "Average distance to surface for FAILED points: " ++ distanceField report.meanDistance,
    "Maximum distance to surface for FAILED points: " ++ distanceField report.maxDistance]

variable (report : Report)

lemma outcomeText_eq {label front : String} (label_eq : "Number of " ++ label ++ "     : " = front)
    (count : Nat) : report.outcomeText label count
      = front.toList ++ ((report.shareText count).toList ++ ['\n']) := by
  have last : "%\n".toList = "%".toList ++ ['\n'] := by decide
  subst label_eq
  delta outcomeText shareText
  simp only [natText_eq_toString, last, String.toList_append, String.toList_ofList,
    List.append_assoc]

lemma distanceText_eq (distance : Option Binary64) :
    distanceText distance = (distanceField distance).toList := by
  cases distance with
  | none => rfl
  | some d => exact String.toList_ofList.symm

/-- **The text of a report is its lines.** -/
theorem text_eq_lines : report.text = ofLines report.lines := by
  have first : "\n---------------------------\n".toList
      = "".toList ++ (['\n'] ++ ("---------------------------".toList ++ ['\n'])) := by decide
  have second : "Reporting on geometry comparison\n".toList
      = "Reporting on geometry comparison".toList ++ ['\n'] := by decide
  have third : "---------------------------\n".toList
      = "---------------------------".toList ++ ['\n'] := by decide
  have success := report.outcomeText_eq
    (by decide : "Number of " ++ "SUCCESSFUL" ++ "     : " = "Number of SUCCESSFUL     : ")
  have failure := report.outcomeText_eq
    (by decide : "Number of " ++ "FAILED    " ++ "     : " = "Number of FAILED         : ")
  have ignored := report.outcomeText_eq
    (by decide : "Number of " ++ "IGNORED   " ++ "     : " = "Number of IGNORED        : ")
  have outside := report.outcomeText_eq
    (by decide : "Number of " ++ "OUTSIDE   " ++ "     : " = "Number of OUTSIDE        : ")
  delta text ofLines lines
  simp only [first, second, third, success, failure, ignored, outside, distanceText_eq,
    natText_eq_toString, String.toList_append, List.flatMap_cons, List.flatMap_nil,
    List.append_assoc, List.append_nil]

/-- **The text has no other lines.** -/
theorem newline_not_mem_lines : ∀ line ∈ report.lines, '\n' ∉ line.toList := by
  have field : ∀ {text : List Char}, IsField text → '\n' ∉ text := fun solid member =>
    absurd (solid.solid _ member) (by decide)
  have count : ∀ n : Nat, '\n' ∉ (toString n).toList := by
    intro n
    rw [← natText_eq_toString]
    exact field (isField_natText n)
  have share : ∀ n, '\n' ∉ (report.shareText n).toList := by
    intro n
    delta shareText
    simp only [String.toList_append, String.toList_ofList, List.mem_append, not_or]
    exact ⟨⟨⟨count n, by decide⟩, field (Binary64.isField_fixedText 2 _)⟩, by decide⟩
  have distance : ∀ d, '\n' ∉ (distanceField d).toList := by
    intro d
    rw [← distanceText_eq]
    cases d with
    | none => decide
    | some d => exact field (Binary64.isField_scientificText d)
  delta lines
  simp only [List.forall_mem_cons, String.toList_append, List.mem_append, not_or]
  refine ⟨by decide, by decide, by decide, by decide, ⟨by decide, count _⟩, ⟨by decide, share _⟩,
    ⟨by decide, share _⟩, ⟨by decide, share _⟩, ⟨by decide, share _⟩, ⟨by decide, count _⟩,
    ⟨by decide, count _⟩, ⟨by decide, distance _⟩, ⟨by decide, distance _⟩, ?_⟩
  exact fun _ member => absurd member List.not_mem_nil

end Report

end Concordance
