import Concordance.Proofs.Trace.Calls
import Concordance.Proofs.Trace.Stream
import Concordance.Trace.Reader

/-!
# Binary traces are read as they were written

The answers of a binary trace depend on the bytes behind its head only.  `answerOfBody` is the
answer that a list of bytes gives rise to, and `answer_binary` says that call number `n` is
answered by the bytes behind `n` records.  So the calls can be looked at one by one, with no
stream in between.

* `pointOfRecord_recordOfPoint` is the round trip of one point.  The order of the words in a
  record is that of `words`, which is not the order of the fields of a point.
* `openStream_bytesOfPoints` and `ofBytes_bytesOfPoints` are the round trip of a trace, from any
  stream that holds its bytes and from the bytes at once.
-/

namespace Concordance

namespace Trace

/-! ## Words and records -/

@[simp] lemma length_wordBytes (w : UInt64) : (wordBytes w).length = 8 :=
  length_toLittleEndian 8 _

/-- The words of a point, in the order in which they are written. -/
def words (p : SampledPoint) : List UInt64 :=
  [p.rank.toUInt64, p.position.x.bits, p.position.y.bits, p.position.z.bits,
    p.material.value.toUInt64, p.density.bits]

lemma recordOfPoint_eq (p : SampledPoint) : recordOfPoint p = (words p).flatMap wordBytes := by
  simp [recordOfPoint, words]

@[simp] lemma length_recordOfPoint (p : SampledPoint) :
    (recordOfPoint p).length = recordLength := by
  simp [recordOfPoint, recordLength]

/-- A word is found again at its place. -/
lemma wordAt_flatMap {written : List UInt64} {place : Nat} {w : UInt64}
    (h : written[place]? = some w) : wordAt (written.flatMap wordBytes) place = w := by
  have small : w.toNat < Nat.pow 256 8 := w.toNat_lt
  obtain ⟨rest, split⟩ : ∃ rest, written.drop place = w :: rest := by
    rw [← List.head?_drop] at h
    exact List.head?_eq_some_iff.1 h
  rw [wordAt, drop_flatMap length_wordBytes, split, List.flatMap_cons,
    List.take_left' (length_wordBytes w), wordBytes, ofLittleEndian_toLittleEndian 8 _ small,
    UInt64.ofNat_toNat]

/-- **A point is read back from its record**, bit for bit. -/
theorem pointOfRecord_recordOfPoint (p : SampledPoint) : pointOfRecord (recordOfPoint p) = p := by
  have found : ∀ place w, (words p)[place]? = some w → wordAt (recordOfPoint p) place = w := by
    intro place w h
    rw [recordOfPoint_eq]
    exact wordAt_flatMap h
  rw [pointOfRecord, found 0 _ rfl, found 1 _ rfl, found 2 _ rfl, found 3 _ rfl, found 4 _ rfl,
    found 5 _ rfl, Int64.toInt64_toUInt64, Int64.toInt64_toUInt64]

/-! ## The head -/

/-- The head of a trace of so many points. -/
def headOfCount (count : Nat) : List UInt8 :=
  magic ++ toLittleEndian 4 version ++ toLittleEndian 8 count

@[simp] lemma length_headOfCount (count : Nat) : (headOfCount count).length = headLength := by
  simp [headOfCount, magic, headLength]

lemma bytesOfPoints_eq (points : List SampledPoint) :
    bytesOfPoints points = headOfCount points.length ++ points.flatMap recordOfPoint := rfl

/-- A count that fits into a word is read back from its head. -/
lemma countOfHead_headOfCount {count : Nat} (countable : count < UInt64.size) :
    countOfHead (headOfCount count) = .ok count := by
  have small : count < Nat.pow 256 8 := countable
  have letters : (headOfCount count).take 4 = magic := rfl
  have number : ((headOfCount count).drop 4).take 4 = toLittleEndian 4 version := rfl
  have rest : ((headOfCount count).drop 8).take 8 = toLittleEndian 8 count := rfl
  have full : ¬ (headOfCount count).length < headLength := by
    rw [length_headOfCount]
    exact Nat.lt_irrefl _
  have known : ¬ ofLittleEndian (toLittleEndian 4 version) ≠ version := by decide
  rw [countOfHead, if_neg full, letters, number, rest, if_neg fun differs => differs rfl,
    if_neg known, ofLittleEndian_toLittleEndian 8 count small]

end Trace

namespace TraceReader

open PointSource Trace

/-! ## Calls -/

/-- What a call answers on a binary trace, given the bytes that are left. -/
def answerOfBody (body : List UInt8) : Except TraceFault (Option SampledPoint) :=
  if body.length = 0 then .ok none
  else if recordLength ≤ body.length then .ok (some (pointOfRecord (body.take recordLength)))
  else .error (.truncated body.length recordLength)

lemma nextOfStream_eq (s : ByteStream) :
    nextOfStream s = (answerOfBody s.bytes, (s.fill recordLength).2) := by
  have length : (s.fill recordLength).1.length = min recordLength s.bytes.length := by
    rw [ByteStream.fill_fst, List.length_take]
  have positive : 0 < recordLength := by decide
  simp only [nextOfStream, answerOfBody]
  by_cases empty : s.bytes.length = 0
  · rw [if_pos empty, if_pos (by omega)]
  · rw [if_neg empty, if_neg (by omega)]
    by_cases full : recordLength ≤ s.bytes.length
    · rw [if_pos full, if_pos (by omega), ByteStream.fill_fst]
    · have short : (s.fill recordLength).1.length = s.bytes.length := by omega
      rw [if_neg full, if_neg (by omega), short]

/-- Every call takes the bytes of one record, or those that are left. -/
lemma after_binary (declared : Nat) (s : ByteStream) (n : Nat) :
    ∃ rest : ByteStream, rest.bytes = s.bytes.drop (recordLength * n) ∧
      after (⟨declared, .binary s⟩ : TraceReader) n = ⟨declared, .binary rest⟩ := by
  induction n generalizing s with
  | zero => exact ⟨s, by rw [Nat.mul_zero, List.drop_zero], rfl⟩
  | succ n ih =>
      obtain ⟨rest, left, same⟩ := ih (nextOfStream s).2
      refine ⟨rest, ?_, same⟩
      rw [left, nextOfStream_eq, ByteStream.bytes_fill, List.drop_drop, Nat.mul_succ,
        Nat.add_comm]

/-- **Each call is answered by the bytes behind the records before it.** -/
theorem answer_binary (declared : Nat) (s : ByteStream) (n : Nat) :
    answer (⟨declared, .binary s⟩ : TraceReader) n
      = answerOfBody (s.bytes.drop (recordLength * n)) := by
  obtain ⟨rest, left, same⟩ := after_binary declared s n
  rw [answer, same, ← left]
  exact congrArg Prod.fst (nextOfStream_eq rest)

/-! ## Opening -/

/-- Opening looks at the bytes of a head, and leaves those behind them. -/
lemma openStream_eq (s : ByteStream) :
    openStream s = (countOfHead (s.bytes.take headLength)).map fun count =>
      ⟨count, .binary (s.fill headLength).2⟩ := by
  rw [← ByteStream.fill_fst, openStream, readHead]
  cases head : countOfHead (s.fill headLength).1 <;> simp [head, Except.map]

/-! ## The round trip -/

/-- The record at the front is what is answered, and at the end nothing is. -/
lemma answerOfBody_flatMap (points : List SampledPoint) :
    answerOfBody (points.flatMap recordOfPoint) = .ok points.head? := by
  cases points with
  | nil => rfl
  | cons p rest =>
      have length : ((p :: rest).flatMap recordOfPoint).length
          = recordLength + (rest.flatMap recordOfPoint).length := by
        rw [List.flatMap_cons, List.length_append, length_recordOfPoint]
      have positive : 0 < recordLength := by decide
      rw [answerOfBody, if_neg (by omega), if_pos (by omega), List.flatMap_cons,
        List.take_left' (length_recordOfPoint p), pointOfRecord_recordOfPoint]
      rfl

/-- The records are read back from every stream that holds the bytes of a trace, however it
delivers them. -/
theorem openStream_bytesOfPoints {points : List SampledPoint}
    (countable : points.length < UInt64.size) {s : ByteStream}
    (written : s.bytes = bytesOfPoints points) :
    ∃ trace, openStream s = .ok trace ∧ declared trace = some points.length ∧
      ∀ n, answer trace n = .ok points[n]? := by
  rw [bytesOfPoints_eq] at written
  have head : s.bytes.take headLength = headOfCount points.length := by
    rw [written, List.take_left' (length_headOfCount _)]
  have body : (s.fill headLength).2.bytes = points.flatMap recordOfPoint := by
    rw [ByteStream.bytes_fill, written, List.drop_left' (length_headOfCount _)]
  refine ⟨⟨points.length, .binary (s.fill headLength).2⟩, ?_, rfl, ?_⟩
  · rw [openStream_eq, head, countOfHead_headOfCount countable]
    rfl
  · intro n
    rw [answer_binary, body, drop_flatMap length_recordOfPoint, answerOfBody_flatMap,
      List.head?_drop]

/-- **A binary trace is read as it was written.**  As long as a word holds the number of points,
the bytes open as a trace that announces it, call number `n` answers point number `n`, and every
later call answers that there is none.  Points are equal bit by bit, also where a double is no
number. -/
theorem ofBytes_bytesOfPoints (points : List SampledPoint)
    (countable : points.length < UInt64.size) :
    ∃ trace, ofBytes .binary (bytesOfPoints points) = .ok trace ∧
      declared trace = some points.length ∧ ∀ n, answer trace n = .ok points[n]? :=
  openStream_bytesOfPoints countable (ByteStream.bytes_ofBytes _)

/-- Two points with the least and the largest integers, a quiet and a signalling pattern that are
no numbers, an infinity and a negative zero. -/
theorem ofBytes_bytesOfPoints_extreme :
    let points : List SampledPoint :=
      [⟨⟨⟨0x7ff8000000000001⟩, ⟨0x7ff0000000000001⟩, .infinity⟩, ⟨Int64.minValue⟩, .zero,
          Int64.maxValue⟩,
        ⟨⟨⟨0x8000000000000000⟩, .zero, .zero⟩, ⟨Int64.maxValue⟩, ⟨1⟩, Int64.minValue⟩]
    points.length < UInt64.size ∧ ∃ trace, ofBytes .binary (bytesOfPoints points) = .ok trace ∧
      answer trace 0 = .ok points[0]? ∧ answer trace 1 = .ok points[1]? ∧
      answer trace 2 = .ok none := by
  intro points
  have countable : points.length < UInt64.size := by decide
  obtain ⟨trace, opened, _, answers⟩ := ofBytes_bytesOfPoints points countable
  exact ⟨countable, trace, opened, answers 0, answers 1, answers 2⟩

end TraceReader
end Concordance
