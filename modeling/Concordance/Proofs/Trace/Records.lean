import Concordance.Proofs.Trace.Acceptance
import Concordance.Proofs.Trace.Account

/-!
# How many records a trace holds

The records of a trace are counted without reading them: the telling lines that are left, or the
full records that the bytes make room for.  Calls give no more points than there are records
(`lt_records_of_point`), and the end comes only behind the last of them (`records_le_of_end`).
-/

namespace Concordance.TraceReader

open PointSource Trace

/-- The number of records that are left of a trace. -/
def records (trace : TraceReader) : Nat :=
  match trace.body with
  | .ascii reader => (telling reader.rest).length
  | .binary stream => stream.bytes.length / recordLength

variable {trace : TraceReader} {n : Nat}

/-- A call that gives a point has a record to read. -/
lemma lt_records_of_point {p : SampledPoint} (given : answer trace n = .ok (some p)) :
    n < trace.records := by
  obtain ⟨count, reader | stream⟩ := trace
  · obtain ⟨lines, number⟩ := reader
    have tells := lineTells_answer count lines number n
    rw [given] at tells
    generalize place : (telling lines)[n]? = line at tells
    cases tells with
    | point _ => exact (List.getElem?_eq_some_iff.1 place).1
  · rw [answer_of_body] at given
    split at given
    · assumption
    · split at given <;> cases given

/-- A call that finds the end has no record to read. -/
lemma records_le_of_end (last : answer trace n = .ok none) : trace.records ≤ n := by
  obtain ⟨count, reader | stream⟩ := trace
  · obtain ⟨lines, number⟩ := reader
    have tells := lineTells_answer count lines number n
    rw [last] at tells
    generalize place : (telling lines)[n]? = line at tells
    cases tells with
    | done => exact List.getElem?_eq_none_iff.1 place
  · rw [answer_of_body] at last
    split at last
    · rename_i inside
      rw [getElem?_pointsOfBody inside] at last
      cases last
    · rename_i outside
      exact Nat.le_of_not_lt outside

/-- Calls that all give points have a record each. -/
lemma length_le_records {points : List SampledPoint} (yielded : Yields trace points) :
    points.length ≤ trace.records := by
  rcases List.eq_nil_or_concat' points with rfl | ⟨front, p, rfl⟩
  · exact Nat.zero_le _
  · have last := yielded front.length p List.getElem?_concat_length
    rw [List.length_append, List.length_singleton]
    exact lt_records_of_point last

end Concordance.TraceReader
