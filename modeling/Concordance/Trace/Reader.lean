import Concordance.Trace.Binary
import Concordance.Trace.Lines

/-!
# Reading traces

A `TraceReader` is a trace in either encoding behind its head, and a source of points.

The reader of a text trace counts the lines it has read as text; bytes that are no text are
passed over without being counted.  After a fault it goes on with the next line.  The reader of
a binary trace fails once for a record that is cut short and is at its end then.
-/

namespace Concordance

/-- The two encodings of traces. -/
inductive Encoding where
  | binary
  | ascii
  deriving DecidableEq, Repr

/-- Traces are binary unless said otherwise. -/
instance : Inhabited Encoding := ⟨.binary⟩

/-- The lines of a text trace that are still to be read, and the number of those counted. -/
structure LineReader where
  rest : List (List UInt8)
  line : Nat
  deriving DecidableEq, Repr

namespace LineReader

/-- Reads on to the next line with data. -/
def next (count : Nat) : List (List UInt8) → Except FileFault (Option (List Char)) × LineReader
  | [] => (.ok none, ⟨[], count⟩)
  | bytes :: rest =>
    match TraceLine.ofBytes bytes with
    | .unreadable => (.error .notText, ⟨rest, count⟩)
    | .skipped => next (count + 1) rest
    | .data text => (.ok (some text), ⟨rest, count + 1⟩)

/-- Data is found on a line, which is then no longer to be read. -/
theorem length_rest_of_data {count : Nat} {lines : List (List UInt8)} {text : List Char}
    {reader : LineReader} (h : next count lines = (.ok (some text), reader)) :
    reader.rest.length < lines.length := by
  induction lines generalizing count with
  | nil => simp [next] at h
  | cons bytes rest ih =>
    rw [next] at h
    split at h
    · simp at h
    · have := ih h
      simp only [List.length_cons]; omega
    · simp only [Prod.mk.injEq] at h
      simp [← h.2]

end LineReader

/-- What is left of a trace, in one of the encodings. -/
inductive TraceBody where
  | ascii (reader : LineReader)
  | binary (stream : ByteStream)

/-- A trace behind its head. -/
structure TraceReader where
  /-- The number of points that the head announces. -/
  declared : Nat
  body : TraceBody

namespace TraceReader

/-- Opens a text trace. -/
def openLines (lines : List (List UInt8)) : Except TraceFault TraceReader :=
  match LineReader.next 0 lines with
  | (.error fault, _) => .error (.file fault)
  | (.ok none, _) => .error .missingHeader
  | (.ok (some text), reader) =>
    (Trace.readCount reader.line text).map fun count => ⟨count, .ascii reader⟩

/-- Opens a binary trace. -/
def openStream (s : ByteStream) : Except TraceFault TraceReader :=
  (Trace.readHead s).map fun (count, rest) => ⟨count, .binary rest⟩

/-- Opens a trace in the given encoding. -/
def ofBytes (encoding : Encoding) (bytes : List UInt8) : Except TraceFault TraceReader :=
  match encoding with
  | .ascii => openLines (Trace.linesOfBytes bytes)
  | .binary => openStream (.ofBytes bytes)

/-- The next point of a text trace. -/
def nextOfLines (reader : LineReader) :
    Except TraceFault (Option SampledPoint) × LineReader :=
  match LineReader.next reader.line reader.rest with
  | (.error fault, reader) => (.error (.file fault), reader)
  | (.ok none, reader) => (.ok none, reader)
  | (.ok (some text), reader) => ((Trace.readRecord reader.line text).map some, reader)

/-- The next point of a binary trace. -/
def nextOfStream (s : ByteStream) : Except TraceFault (Option SampledPoint) × ByteStream :=
  match s.fill Trace.recordLength with
  | (record, rest) =>
    if record.length = 0 then (.ok none, rest)
    else if record.length = Trace.recordLength then
      (.ok (some (Trace.pointOfRecord record)), rest)
    else (.error (.truncated record.length Trace.recordLength), rest)

/-- The next point of a trace. -/
def next (trace : TraceReader) : Except TraceFault (Option SampledPoint) × TraceReader :=
  match trace.body with
  | .ascii reader =>
    let (result, reader) := nextOfLines reader
    (result, { trace with body := .ascii reader })
  | .binary stream =>
    let (result, stream) := nextOfStream stream
    (result, { trace with body := .binary stream })

/-- The number of lines or bytes still to be read. -/
def remaining (trace : TraceReader) : Nat :=
  match trace.body with
  | .ascii reader => reader.rest.length
  | .binary stream => stream.bytes.length

theorem remaining_next {trace trace' : TraceReader} {p : SampledPoint}
    (h : trace.next = (.ok (some p), trace')) : trace'.remaining < trace.remaining := by
  obtain ⟨declared, body⟩ := trace
  cases body with
  | ascii reader =>
    simp only [next, nextOfLines] at h
    split at h
    · simp at h
    · simp at h
    · rename_i text later hl
      simp only [Prod.mk.injEq] at h
      rw [← h.2]
      exact LineReader.length_rest_of_data hl
  | binary stream =>
    have taken := ByteStream.length_fill Trace.recordLength stream
    by_cases none : (stream.fill Trace.recordLength).1.length = 0
    · simp [next, nextOfStream, none] at h
    · by_cases full : (stream.fill Trace.recordLength).1.length = Trace.recordLength
      · simp only [next, nextOfStream] at h
        rw [if_neg none, if_pos full] at h
        obtain rfl := (congrArg Prod.snd h).symm
        simp only [remaining]
        omega
      · simp [next, nextOfStream, none, full] at h

instance : PointSource TraceReader where
  declared trace := some trace.declared
  next := next
  remaining := remaining
  remaining_next := remaining_next

end TraceReader
end Concordance
