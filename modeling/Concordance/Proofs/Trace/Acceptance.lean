import Concordance.Proofs.Trace.Binary
import Mathlib.Data.List.Basic

/-!
# Which bytes are a binary trace, and what is read of them

Bytes that were not written by `bytesOfPoints` may lack a head, have a wrong one, or end within a
record.  This module starts from the bytes.

* `recordOfPoint_pointOfRecord` is the round trip that begins with a record: reading a point
  forgets no bit of its forty-eight bytes, so writing it gives them back.
* `pointsOfBody` lists the points in the full records of a body, and `flatMap_pointsOfBody` says
  that their records are the body, up to the bytes that fill no record.
* `answer_of_body` gives the answer to every call, on both sides of the place where the records
  end.
* `ofBytes_binary_spec` puts the head in front: which of the four outcomes opening has, what the
  calls answer then, and that nothing is lost.
-/

namespace Concordance

namespace Trace

/-! ## One record -/

/-- A word is written as the eight bytes it was read from. -/
lemma wordBytes_wordAt {record : List UInt8} {place : Nat}
    (inside : 8 * (place + 1) ≤ record.length) :
    wordBytes (wordAt record place) = (record.drop (8 * place)).take 8 := by
  have length : ((record.drop (8 * place)).take 8).length = 8 := by
    rw [List.length_take, List.length_drop]
    omega
  have small : ofLittleEndian ((record.drop (8 * place)).take 8) < UInt64.size := by
    have bound := ofLittleEndian_lt ((record.drop (8 * place)).take 8)
    rwa [length] at bound
  have back := toLittleEndian_ofLittleEndian ((record.drop (8 * place)).take 8)
  rw [length] at back
  rw [wordBytes, wordAt, UInt64.toNat_ofNat_of_lt' small, back]

lemma words_pointOfRecord (record : List UInt8) :
    words (pointOfRecord record) = (List.range 6).map (wordAt record) := by
  simp [words, pointOfRecord, List.range_succ]

/-- **A record is written as it was read**, whatever its bytes are: no pattern of a double is
changed on the way. -/
theorem recordOfPoint_pointOfRecord {record : List UInt8}
    (full : record.length = recordLength) : recordOfPoint (pointOfRecord record) = record := by
  have slices : ∀ place ∈ List.range 6,
      wordBytes (wordAt record place) = (record.drop (8 * place)).take 8 := by
    intro place member
    have below := List.mem_range.1 member
    refine wordBytes_wordAt ?_
    rw [full, recordLength]
    omega
  calc recordOfPoint (pointOfRecord record)
      = (List.range 6).flatMap fun place => wordBytes (wordAt record place) := by
        rw [recordOfPoint_eq, words_pointOfRecord, List.flatMap_map]
    _ = (List.range 6).flatMap fun place => (record.drop (8 * place)).take 8 :=
        List.flatMap_congr slices
    _ = record.take (8 * 6) := flatMap_slices record 8 6
    _ = record := List.take_of_length_le (Nat.le_of_eq full)

/-! ## A body of records -/

/-- The points in the full records of a body. -/
def pointsOfBody (body : List UInt8) : List SampledPoint :=
  (List.range (body.length / recordLength)).map fun n =>
    pointOfRecord ((body.drop (recordLength * n)).take recordLength)

@[simp] lemma length_pointsOfBody (body : List UInt8) :
    (pointsOfBody body).length = body.length / recordLength := by
  rw [pointsOfBody, List.length_map, List.length_range]

lemma getElem?_pointsOfBody {body : List UInt8} {n : Nat} (h : n < body.length / recordLength) :
    (pointsOfBody body)[n]?
      = some (pointOfRecord ((body.drop (recordLength * n)).take recordLength)) := by
  rw [pointsOfBody, List.getElem?_map, List.getElem?_range h, Option.map_some]

/-- A full record is left behind fewer records than the body has. -/
lemma recordLength_le_length_drop {body : List UInt8} {n : Nat}
    (h : n < body.length / recordLength) :
    recordLength ≤ (body.drop (recordLength * n)).length := by
  rw [List.length_drop]
  simp only [recordLength] at h ⊢
  omega

/-- **The records of the points are the bytes that were read.** -/
theorem flatMap_pointsOfBody (body : List UInt8) :
    (pointsOfBody body).flatMap recordOfPoint
      = body.take (recordLength * (body.length / recordLength)) := by
  have records : ∀ n ∈ List.range (body.length / recordLength),
      recordOfPoint (pointOfRecord ((body.drop (recordLength * n)).take recordLength))
        = (body.drop (recordLength * n)).take recordLength := by
    intro n member
    have left := recordLength_le_length_drop (List.mem_range.1 member)
    refine recordOfPoint_pointOfRecord ?_
    rw [List.length_take]
    exact Nat.min_eq_left left
  rw [pointsOfBody, List.flatMap_map, List.flatMap_congr records, flatMap_slices]

/-! ## The head -/

/-- The version that a head states. -/
def versionIn (bytes : List UInt8) : Nat := ofLittleEndian ((bytes.drop 4).take 4)

/-- The number of points that a head states. -/
def countIn (bytes : List UInt8) : Nat := ofLittleEndian ((bytes.drop 8).take 8)

/-- Bytes that begin with a head of this format. -/
structure HasHead (bytes : List UInt8) : Prop where
  long : headLength ≤ bytes.length
  letters : bytes.take 4 = magic
  known : versionIn bytes = version

/-- What is wrong with the head of some bytes: the first of three faults. -/
inductive LacksHead (bytes : List UInt8) : TraceFault → Prop
  | short (h : bytes.length < headLength) : LacksHead bytes .missingHeader
  | letters (long : headLength ≤ bytes.length) (h : bytes.take 4 ≠ magic) :
      LacksHead bytes (.badMagic (bytes.take 4))
  | version (long : headLength ≤ bytes.length) (letters : bytes.take 4 = magic)
      (h : versionIn bytes ≠ version) : LacksHead bytes (.unsupportedVersion (versionIn bytes))

lemma LacksHead.not_hasHead {bytes : List UInt8} {fault : TraceFault}
    (lacks : LacksHead bytes fault) : ¬ HasHead bytes := by
  rintro ⟨long, letters, known⟩
  cases lacks with
  | short h => exact Nat.not_le.2 h long
  | letters _ h => exact h letters
  | version _ _ h => exact h known

/-- A head has one first fault at most. -/
lemma LacksHead.unique {bytes : List UInt8} {fault fault' : TraceFault}
    (lacks : LacksHead bytes fault) (lacks' : LacksHead bytes fault') : fault = fault' := by
  cases lacks with
  | short h =>
      cases lacks' with
      | short _ => rfl
      | letters long _ => exact absurd long (Nat.not_le.2 h)
      | version long _ _ => exact absurd long (Nat.not_le.2 h)
  | letters long h =>
      cases lacks' with
      | short h' => exact absurd long (Nat.not_le.2 h')
      | letters _ _ => rfl
      | version _ same _ => exact absurd same h
  | version long same h =>
      cases lacks' with
      | short h' => exact absurd long (Nat.not_le.2 h')
      | letters _ differs => exact absurd same differs
      | version _ _ _ => rfl

/-- The head is looked at and nothing behind it. -/
lemma countOfHead_take (bytes : List UInt8) :
    (∃ fault, countOfHead (bytes.take headLength) = .error fault ∧ LacksHead bytes fault) ∨
      countOfHead (bytes.take headLength) = .ok (countIn bytes) ∧ HasHead bytes := by
  have letters : (bytes.take headLength).take 4 = bytes.take 4 := by
    rw [List.take_take]
    rfl
  have number : ((bytes.take headLength).drop 4).take 4 = (bytes.drop 4).take 4 := by
    rw [List.drop_take, List.take_take]
    rfl
  have count : ((bytes.take headLength).drop 8).take 8 = (bytes.drop 8).take 8 := by
    rw [List.drop_take, List.take_take]
    rfl
  simp only [countOfHead, letters, number, count, List.length_take]
  by_cases short : bytes.length < headLength
  · exact .inl ⟨_, if_pos (by omega), .short short⟩
  · rw [if_neg (by omega)]
    by_cases differs : bytes.take 4 ≠ magic
    · exact .inl ⟨_, if_pos differs, .letters (by omega) differs⟩
    · have same := Decidable.not_not.1 differs
      rw [if_neg differs]
      by_cases unknown : versionIn bytes ≠ version
      · exact .inl ⟨_, if_pos unknown, .version (by omega) same unknown⟩
      · exact .inr ⟨if_neg unknown, by omega, same, Decidable.not_not.1 unknown⟩

/-- A head is written as it was read. -/
lemma HasHead.headOfCount_countIn {bytes : List UInt8} (h : HasHead bytes) :
    headOfCount (countIn bytes) = bytes.take headLength := by
  have long := h.long
  rw [headLength] at long
  have four : ((bytes.drop 4).take 4).length = 4 := by
    rw [List.length_take, List.length_drop]
    omega
  have eight : ((bytes.drop 8).take 8).length = 8 := by
    rw [List.length_take, List.length_drop]
    omega
  have number := toLittleEndian_ofLittleEndian ((bytes.drop 4).take 4)
  have count := toLittleEndian_ofLittleEndian ((bytes.drop 8).take 8)
  rw [four] at number
  rw [eight] at count
  calc headOfCount (countIn bytes)
      = bytes.take 4 ++ (bytes.drop 4).take 4 ++ (bytes.drop 8).take 8 := by
        rw [headOfCount, ← h.letters, ← h.known, versionIn, countIn, number, count]
    _ = bytes.take headLength := by
        rw [← List.take_add, ← List.take_add]
        rfl

end Trace

namespace TraceReader

open PointSource Trace

/-! ## The calls -/

/-- **What is answered on a body of records.**  The calls give the points in the full records;
the next one finds a record that is cut short, or the end, and all later ones find the end. -/
theorem answer_of_body (count : Nat) (s : ByteStream) (n : Nat) :
    answer (⟨count, .binary s⟩ : TraceReader) n =
      if n < s.bytes.length / recordLength then .ok (pointsOfBody s.bytes)[n]?
      else if n = s.bytes.length / recordLength ∧ 0 < s.bytes.length % recordLength then
        .error (.truncated (s.bytes.length % recordLength) recordLength)
      else .ok none := by
  have length : (s.bytes.drop (recordLength * n)).length = s.bytes.length - recordLength * n :=
    List.length_drop
  rw [answer_binary, answerOfBody]
  by_cases before : n < s.bytes.length / recordLength
  · have full := recordLength_le_length_drop before
    have nonempty : ¬ (s.bytes.drop (recordLength * n)).length = 0 := by
      simp only [recordLength] at full ⊢
      omega
    rw [if_pos before, if_neg nonempty, if_pos full, getElem?_pointsOfBody before]
  · rw [if_neg before]
    by_cases cut : n = s.bytes.length / recordLength ∧ 0 < s.bytes.length % recordLength
    · have left : (s.bytes.drop (recordLength * n)).length = s.bytes.length % recordLength := by
        rw [length, cut.1, Nat.mod_eq_sub_mul_div]
      have short : s.bytes.length % recordLength < recordLength := Nat.mod_lt _ (by decide)
      rw [if_pos cut, left, if_neg (Nat.ne_of_gt cut.2), if_neg (Nat.not_le.2 short)]
    · have ended : (s.bytes.drop (recordLength * n)).length = 0 := by
        simp only [recordLength] at before cut length ⊢
        omega
      rw [if_neg cut, if_pos ended]

/-! ## Opening -/

/-- A stream opens exactly if it begins with a head; otherwise the first fault of the head is
what is said. -/
lemma openStream_cases (s : ByteStream) :
    (∃ fault, openStream s = .error fault ∧ LacksHead s.bytes fault) ∨
      openStream s = .ok ⟨countIn s.bytes, .binary (s.fill headLength).2⟩ ∧
        HasHead s.bytes := by
  have unfolded := openStream_eq s
  rcases countOfHead_take s.bytes with ⟨fault, stopped, lacks⟩ | ⟨counted, has⟩
  · rw [stopped] at unfolded
    exact .inl ⟨fault, unfolded, lacks⟩
  · rw [counted] at unfolded
    exact .inr ⟨unfolded, has⟩

/-- What is read behind a head, and what of the bytes is in it. -/
structure ReadsBack (bytes : List UInt8) (trace : TraceReader) (points : List SampledPoint) :
    Prop where
  /-- There is a point for each full record. -/
  length : points.length = (bytes.length - headLength) / recordLength
  /-- The first calls give the points. -/
  yielded : ∀ n, n < points.length → answer trace n = .ok points[n]?
  /-- The next call finds bytes that fill no record, if there are any. -/
  cut : answer trace points.length =
    if 0 < (bytes.length - headLength) % recordLength then
      .error (.truncated ((bytes.length - headLength) % recordLength) recordLength)
    else .ok none
  /-- All other calls find the end. -/
  ended : ∀ n, points.length < n → answer trace n = .ok none
  /-- The points are written as the bytes they were read from. -/
  body : (bytesOfPoints points).drop headLength
    = (bytes.drop headLength).take (recordLength * points.length)
  /-- So are all bytes, if the head tells the number of points and no byte is left over. -/
  whole : (bytes.length - headLength) % recordLength = 0 → countIn bytes = points.length →
    bytesOfPoints points = bytes

lemma readsBack_of_hasHead {s : ByteStream} (has : HasHead s.bytes) :
    ReadsBack s.bytes ⟨countIn s.bytes, .binary (s.fill headLength).2⟩
      (pointsOfBody (s.bytes.drop headLength)) := by
  have answers := answer_of_body (countIn s.bytes) (s.fill headLength).2
  have size : (s.bytes.drop headLength).length = s.bytes.length - headLength := List.length_drop
  rw [ByteStream.bytes_fill] at answers
  have records := flatMap_pointsOfBody (s.bytes.drop headLength)
  constructor
  case length => rw [length_pointsOfBody, size]
  case yielded =>
    intro n before
    rw [length_pointsOfBody] at before
    rw [answers, if_pos before]
  case cut =>
    rw [answers, length_pointsOfBody, if_neg (Nat.lt_irrefl _), size]
    simp only [true_and]
  case ended =>
    intro n behind
    rw [length_pointsOfBody] at behind
    rw [answers, if_neg (Nat.lt_asymm behind), if_neg]
    rintro ⟨same, _⟩
    exact Nat.lt_irrefl _ (same ▸ behind)
  case body =>
    rw [bytesOfPoints_eq, List.drop_left' (length_headOfCount _), records, length_pointsOfBody]
  case whole =>
    intro whole right
    have all : recordLength * ((s.bytes.drop headLength).length / recordLength)
        = (s.bytes.drop headLength).length := by
      rw [size]
      exact Nat.mul_div_cancel' (Nat.dvd_of_mod_eq_zero whole)
    rw [bytesOfPoints_eq, ← right, has.headOfCount_countIn, records, all, List.take_length,
      List.take_append_drop]

/-- **The reader of binary traces accepts exactly its format, and forgets none of it.**  Opening
looks at the length, the letters and the version, in this order; what is opened announces the
number in its head.  The calls give a point for each full record behind the head, then a fault if
bytes are left over, and from then on the end.  Writing the points gives back the bytes of their
records, and all bytes where none are left over and the number in the head is right. -/
theorem ofBytes_binary_spec (bytes : List UInt8) :
    (∀ fault, ofBytes .binary bytes = .error fault ↔ LacksHead bytes fault) ∧
    ((∃ trace, ofBytes .binary bytes = .ok trace) ↔ HasHead bytes) ∧
    ∀ trace, ofBytes .binary bytes = .ok trace →
      PointSource.declared trace = some (countIn bytes) ∧
        ∃ points, ReadsBack bytes trace points := by
  have opening := openStream_cases (.ofBytes bytes)
  rw [ByteStream.bytes_ofBytes] at opening
  have same : ofBytes .binary bytes = openStream (.ofBytes bytes) := rfl
  rw [same]
  rcases opening with ⟨fault, stopped, lacks⟩ | ⟨opened, has⟩
  · rw [stopped]
    refine ⟨fun fault' => ⟨?_, ?_⟩, ⟨?_, fun has => absurd has lacks.not_hasHead⟩, ?_⟩
    · rintro ⟨⟩
      exact lacks
    · intro lacks'
      rw [lacks.unique lacks']
    · rintro ⟨trace, ⟨⟩⟩
    · rintro trace ⟨⟩
  · have back := readsBack_of_hasHead ((ByteStream.bytes_ofBytes bytes).symm ▸ has)
    rw [ByteStream.bytes_ofBytes] at back
    rw [opened]
    refine ⟨fun fault => ⟨?_, fun lacks => absurd has lacks.not_hasHead⟩,
      ⟨fun _ => has, fun _ => ⟨_, rfl⟩⟩, ?_⟩
    · rintro ⟨⟩
    · rintro trace ⟨⟩
      exact ⟨rfl, _, back⟩

/-- A head that announces three points, a record whose density is a signalling pattern, and five
more bytes: one point, one fault, then the end. -/
theorem ofBytes_binary_spec_cut :
    let record := recordOfPoint ⟨⟨.zero, .zero, .zero⟩, ⟨1⟩, ⟨0x7ff0000000000001⟩, 7⟩
    let bytes := headOfCount 3 ++ record ++ [1, 2, 3, 4, 5]
    ∃ trace, ofBytes .binary bytes = .ok trace ∧ PointSource.declared trace = some 3 ∧
      ∃ points, points.length = 1 ∧ answer trace 0 = .ok points[0]? ∧
        answer trace 1 = .error (.truncated 5 48) ∧ answer trace 2 = .ok none ∧
        (bytesOfPoints points).drop headLength = record := by
  intro record bytes
  have has : HasHead bytes := ⟨by decide, by decide, by decide⟩
  obtain ⟨_, opens, reads⟩ := ofBytes_binary_spec bytes
  obtain ⟨trace, opened⟩ := opens.2 has
  obtain ⟨announced, points, back⟩ := reads trace opened
  have size : bytes.length - headLength = 53 := by decide
  have count : countIn bytes = 3 := by decide
  have slice : (bytes.drop headLength).take (recordLength * 1) = record := by decide
  have one : points.length = 1 := by
    rw [back.length, size]
    rfl
  have cut := back.cut
  rw [one, size, if_pos (by decide)] at cut
  have body := back.body
  rw [one, slice] at body
  rw [count] at announced
  have behind : points.length < 2 := by omega
  exact ⟨trace, opened, announced, points, one, back.yielded 0 (by omega), cut,
    back.ended 2 behind, body⟩

end TraceReader
end Concordance
