import Concordance.Proofs.Trace.Binary

/-!
# How the bytes of a trace arrive does not matter

A file hands its bytes out in pieces, and a piece may end within a head or a record.  A stream is
a list of chunks here, and a read stops at the border of its chunk.  This module says first that
nothing is lost by that, and then that no reader of a binary trace sees the borders.

* `Delivers` is what successive reads of some bytes may answer: any piece that fits, and nothing
  only at the end.  `exists_reads_iff` says that these are the answers of streams, no more and no
  fewer, so a statement about all streams is one about all ways to deliver the bytes.
* `transcript_openStream` computes all that a reader of a trace can see from the bytes of the
  stream.  The chunks do not occur in it.
* `reading_ignores_chunks` puts both beside what `fill` takes and leaves.
-/

namespace Concordance

namespace ByteStream

/-! ## Answers to reads -/

/-- What successive reads give.  Each read has room for one byte more than the number that stands
for it, as in `readSome`. -/
def reads : List Nat → ByteStream → List (List UInt8)
  | [], _ => []
  | n :: asked, s => (s.readSome n).1 :: reads asked (s.readSome n).2

/-- What successive reads of some bytes may answer: each gives any number of the bytes that come
next, at least one and as many as it has room for, and those behind the end give nothing. -/
inductive Delivers : List UInt8 → List Nat → List (List UInt8) → Prop
  | stop (bytes : List UInt8) : Delivers bytes [] []
  | piece {n : Nat} {asked : List Nat} {piece rest : List UInt8} {pieces : List (List UInt8)}
      (nonempty : piece ≠ []) (fits : piece.length ≤ n + 1) (later : Delivers rest asked pieces) :
      Delivers (piece ++ rest) (n :: asked) (piece :: pieces)
  | ended {n : Nat} {asked : List Nat} {pieces : List (List UInt8)}
      (later : Delivers [] asked pieces) : Delivers [] (n :: asked) ([] :: pieces)

/-- The stream that delivers a chunk first. -/
def prepend (chunk : List UInt8) (nonempty : chunk ≠ []) (s : ByteStream) : ByteStream :=
  ⟨chunk :: s.chunks, by simpa [nonempty] using s.nonempty⟩

@[simp] lemma bytes_prepend {chunk : List UInt8} (nonempty : chunk ≠ []) (s : ByteStream) :
    (s.prepend chunk nonempty).bytes = chunk ++ s.bytes := by
  simp [prepend, ByteStream.bytes]

/-- A chunk that fits is given whole. -/
lemma readSome_prepend {n : Nat} {chunk : List UInt8} (nonempty : chunk ≠ [])
    (fits : chunk.length ≤ n + 1) (s : ByteStream) :
    (s.prepend chunk nonempty).readSome n = (chunk, s) := by
  simp [readSome, prepend, fits]

/-- A stream at its end stays there. -/
lemma readSome_of_ended {s : ByteStream} (ended : s.bytes = []) (n : Nat) :
    s.readSome n = ([], s) := by
  unfold readSome
  split
  · rfl
  · rename_i chunk rest chunks
    have nonempty : chunk ≠ [] := s.nonempty chunk (chunks ▸ List.mem_cons_self)
    simp [ByteStream.bytes, chunks, nonempty] at ended

/-- A stream answers as its bytes allow. -/
lemma delivers_reads (asked : List Nat) (s : ByteStream) :
    Delivers s.bytes asked (s.reads asked) := by
  induction asked generalizing s with
  | nil => exact .stop _
  | cons n asked ih =>
      have joined := readSome_append n s
      have later := ih (s.readSome n).2
      rw [reads]
      by_cases nonempty : (s.readSome n).1 = []
      · have ended := bytes_eq_nil_of_readSome nonempty
        rw [readSome_of_ended ended, ended] at later ⊢
        exact .ended later
      · rw [← joined]
        exact .piece nonempty (length_readSome_le n s) later

/-- **The answers that bytes allow are those of the streams that hold them.**  Whatever the pieces
are in which the bytes are to be given, they are the chunks of a stream. -/
theorem exists_reads_iff {bytes : List UInt8} {asked : List Nat} {pieces : List (List UInt8)} :
    (∃ s : ByteStream, s.bytes = bytes ∧ s.reads asked = pieces) ↔
      Delivers bytes asked pieces := by
  constructor
  · rintro ⟨s, rfl, rfl⟩
    exact delivers_reads asked s
  · intro h
    induction h with
    | stop bytes => exact ⟨ofBytes bytes, bytes_ofBytes bytes, rfl⟩
    | @piece n _ piece _ _ nonempty fits _ ih =>
        obtain ⟨s, rfl, rfl⟩ := ih
        refine ⟨s.prepend piece nonempty, bytes_prepend nonempty s, ?_⟩
        rw [reads, readSome_prepend nonempty fits]
    | @ended n _ _ _ ih =>
        obtain ⟨s, ended, rfl⟩ := ih
        refine ⟨s, ended, ?_⟩
        rw [reads, readSome_of_ended ended]

end ByteStream

namespace TraceReader

open PointSource Trace

/-! ## Transcripts -/

/-- All that can be seen of a trace: the fault that opening it ends in, or the number that it
announces and the answers to all calls. -/
def transcript (opened : Except TraceFault TraceReader) :
    Except TraceFault (Option Nat × (Nat → Except TraceFault (Option SampledPoint))) :=
  opened.map fun trace => (PointSource.declared trace, answer trace)

/-- **What is seen of a binary trace is a function of its bytes.** -/
theorem transcript_openStream (s : ByteStream) :
    transcript (openStream s) = (countOfHead (s.bytes.take headLength)).map fun count =>
      (some count, fun n => answerOfBody ((s.bytes.drop headLength).drop (recordLength * n))) := by
  rw [transcript, openStream_eq]
  cases countOfHead (s.bytes.take headLength) with
  | error fault => rfl
  | ok count =>
      have answers : answer (⟨count, .binary (s.fill headLength).2⟩ : TraceReader)
          = fun n => answerOfBody ((s.bytes.drop headLength).drop (recordLength * n)) := by
        funext n
        rw [answer_binary, ByteStream.bytes_fill]
      simp only [Except.map, answers]
      rfl

/-- **How the bytes of a binary trace are delivered does not matter.**  Streams give all the
answers to reads that their bytes allow.  However a stream cuts its bytes, filling takes as many
as are asked for, or all that are left, in order, and leaves the others; and opening the stream
and calling it any number of times gives what the bytes give at once. -/
theorem reading_ignores_chunks (bytes : List UInt8) :
    (∀ asked pieces, (∃ s : ByteStream, s.bytes = bytes ∧ s.reads asked = pieces) ↔
      ByteStream.Delivers bytes asked pieces) ∧
    ∀ s : ByteStream, s.bytes = bytes →
      (∀ n, (s.fill n).1.length = min n bytes.length ∧ (s.fill n).1 = bytes.take n ∧
        (s.fill n).2.bytes = bytes.drop n) ∧
      transcript (openStream s) = transcript (ofBytes .binary bytes) := by
  refine ⟨fun _ _ => ByteStream.exists_reads_iff, ?_⟩
  rintro s rfl
  refine ⟨fun n => ⟨?_, s.fill_fst n, s.bytes_fill n⟩, ?_⟩
  · rw [ByteStream.fill_fst, List.length_take]
  · rw [ofBytes, transcript_openStream, transcript_openStream, ByteStream.bytes_ofBytes]

/-- A head cut behind its letters and a record cut within a word: the first read of the head gives
four bytes, and still the head is filled and the point is read as it was written. -/
theorem reading_ignores_chunks_of_cut_record :
    let p : SampledPoint := ⟨⟨⟨0x7ff0000000000001⟩, .zero, .zero⟩, ⟨1⟩, .infinity, -1⟩
    let bytes := bytesOfPoints [p]
    ∃ s : ByteStream, s.chunks = [bytes.take 4, (bytes.drop 4).take 23, bytes.drop 27] ∧
      s.reads [15] = [bytes.take 4] ∧ (s.fill 16).1 = bytes.take 16 ∧
      transcript (openStream s) = transcript (ofBytes .binary bytes) ∧
      ∃ trace, openStream s = .ok trace ∧ answer trace 0 = .ok (some p) := by
  intro p bytes
  let s : ByteStream := ⟨[bytes.take 4, (bytes.drop 4).take 23, bytes.drop 27], by decide⟩
  have whole : s.bytes = bytes := by decide
  have countable : [p].length < UInt64.size := by decide
  obtain ⟨-, alike⟩ := reading_ignores_chunks bytes
  obtain ⟨filled, seen⟩ := alike s whole
  obtain ⟨trace, opened, -, answers⟩ := openStream_bytesOfPoints countable whole
  exact ⟨s, rfl, by decide, (filled 16).2.1, seen, trace, opened, answers 0⟩

end TraceReader
end Concordance
