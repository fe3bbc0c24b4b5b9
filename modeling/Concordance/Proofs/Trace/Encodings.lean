import Concordance.Proofs.Trace.Acceptance
import Concordance.Proofs.Trace.Account
import Concordance.Proofs.Trace.Text

/-!
# No trace is of both encodings

The letters at the front of a binary trace hold no newline, so they are the front of the first
line of its bytes.  They are ASCII and no blanks, so whatever follows them, that line is no text
or a telling line that begins with `P`: it is neither skipped nor a number of points.

* `trim_append_of_solid` and `decode?_append_of_ascii` say that letters at the front stay there
  when a line is decoded and trimmed.
* `ofBytes_ascii_of_magic` is the exclusion from the side of the letters, with the fault that comes
  of them.
* `encodings_exclude` states both sides, for all bytes and for the bytes of written traces.
-/

namespace Concordance

/-! ## Letters at the front -/

/-- Letters of ASCII are decoded by themselves. -/
lemma Utf8.decode?_append_of_ascii {front : List Char} (ascii : ∀ c ∈ front, c.toNat < 0x80)
    (rest : List UInt8) :
    decode? (front.map (fun c => UInt8.ofNat c.toNat) ++ rest) = (decode? rest).map (front ++ ·) := by
  induction front with
  | nil => simp
  | cons c front ih =>
      obtain ⟨first, others⟩ := List.forall_mem_cons.1 ascii
      rw [List.map_cons, List.cons_append, decode?_one _ first, ih others, Option.map_map]
      rfl

/-- A text that begins with letters that are no blanks keeps them when it is trimmed. -/
lemma Text.trim_append_of_solid {front : List Char} (h : IsField front) (rest : List Char) :
    ∃ later, trim (front ++ rest) = front ++ later := by
  obtain ⟨c, others, rfl⟩ := List.exists_cons_of_ne_nil h.nonempty
  have starts : ((c :: others) ++ rest).dropWhile isBlank = (c :: others) ++ rest :=
    dropWhile_of_head? fun d first => by
      obtain rfl : c = d := by simpa using first
      exact h.solid c List.mem_cons_self
  have ends : (c :: others).reverse.dropWhile isBlank = (c :: others).reverse :=
    dropWhile_of_head? fun d last => h.solid d (by
      rw [List.head?_reverse] at last
      exact List.mem_of_getLast? last)
  rw [trim, starts, List.reverse_append, List.dropWhile_append]
  split
  · exact ⟨[], by rw [ends, List.reverse_reverse, List.append_nil]⟩
  · exact ⟨(rest.reverse.dropWhile isBlank).reverse, by
      rw [List.reverse_append, List.reverse_reverse]⟩

namespace Trace

/-- Bytes without a newline at the front are the front of the first line. -/
lemma linesOfBytes_append {front : List UInt8} (nonempty : front ≠ [])
    (whole : (10 : UInt8) ∉ front) (rest : List UInt8) :
    ∃ later lines, linesOfBytes (front ++ rest) = (front ++ later) :: lines := by
  by_cases newline : (10 : UInt8) ∈ rest
  · obtain ⟨later, others, rfl, uncut⟩ := List.eq_append_cons_of_mem newline
    refine ⟨later, linesOfBytes others, ?_⟩
    rw [← List.append_assoc, linesOfBytes_append_cons]
    simp [whole, uncut]
  · refine ⟨rest, [], linesOfBytes_of_last (List.append_ne_nil_of_left_ne_nil nonempty _) ?_⟩
    simp [whole, newline]

/-- The letters of `magic` as a text. -/
def magicText : List Char := ['P', 'T', 'R', 'C']

lemma magic_eq : magic = magicText.map fun c => UInt8.ofNat c.toNat := by decide

/-- A line that begins with `magic` is no text, or data that begins with its letters. -/
lemma ofBytes_magic_append (rest : List UInt8) :
    TraceLine.ofBytes (magic ++ rest) = .unreadable ∨
      ∃ later, TraceLine.ofBytes (magic ++ rest) = .data (magicText ++ later) := by
  have ascii : ∀ c ∈ magicText, c.toNat < 0x80 := by simp [magicText]
  have solid : Text.IsField magicText := Text.isField_of_any (by decide) (by decide)
  rw [TraceLine.ofBytes, magic_eq, Utf8.decode?_append_of_ascii ascii]
  cases Utf8.decode? rest with
  | none => exact .inl rfl
  | some cs =>
      obtain ⟨later, trimmed⟩ := Text.trim_append_of_solid solid cs
      refine .inr ⟨later, ?_⟩
      simp only [Option.map_some, trimmed]
      rfl

/-- No number begins with the letters of `magic`. -/
lemma readCount_magicText (line : Nat) (later : List Char) :
    readCount line (magicText ++ later)
      = .error (.malformed line (.badCount (magicText ++ later) .invalidDigit)) := rfl

end Trace

namespace TraceReader

open Trace

/-! ## Bytes with the letters of a binary trace -/

/-- The faults of a text trace whose first line begins with `magic`. -/
inductive RefusesMagic : TraceFault → Prop
  | noText : RefusesMagic (.file .notText)
  | noNumber (later : List Char) :
      RefusesMagic (.malformed 1 (.badCount (magicText ++ later) .invalidDigit))

/-- **Bytes that begin with `magic` are no text trace**: the first line is where it ends. -/
theorem ofBytes_ascii_of_magic {bytes : List UInt8} (letters : bytes.take 4 = magic) :
    ∃ fault, ofBytes .ascii bytes = .error fault ∧ RefusesMagic fault := by
  obtain ⟨rest, rfl⟩ : ∃ rest, bytes = magic ++ rest :=
    ⟨bytes.drop 4, by rw [← letters, List.take_append_drop]⟩
  obtain ⟨later, lines, first⟩ := linesOfBytes_append (show magic ≠ [] by decide) (by decide) rest
  rw [ofBytes, first, openLines, LineReader.next]
  rcases ofBytes_magic_append later with kind | ⟨text, kind⟩
  · exact ⟨_, by simp only [kind], .noText⟩
  · exact ⟨_, by simp only [kind, readCount_magicText, Except.map], .noNumber text⟩

/-! ## Bytes without a binary head -/

lemma ofBytes_binary_of_lacksHead {bytes : List UInt8} {fault : TraceFault}
    (lacks : LacksHead bytes fault) : ofBytes .binary bytes = .error fault := by
  have opening := openStream_cases (.ofBytes bytes)
  rw [ByteStream.bytes_ofBytes] at opening
  rcases opening with ⟨fault', stopped, lacks'⟩ | ⟨_, has⟩
  · rw [lacks.unique lacks']
    exact stopped
  · exact absurd has lacks.not_hasHead

lemma exists_ofBytes_binary_iff {bytes : List UInt8} :
    (∃ trace, ofBytes .binary bytes = .ok trace) ↔ HasHead bytes := by
  have opening := openStream_cases (.ofBytes bytes)
  rw [ByteStream.bytes_ofBytes] at opening
  constructor
  · rintro ⟨trace, opened⟩
    rcases opening with ⟨fault, stopped, _⟩ | ⟨_, has⟩
    · cases stopped.symm.trans opened
    · exact has
  · intro has
    rcases opening with ⟨fault, _, lacks⟩ | ⟨opened, _⟩
    · exact absurd has lacks.not_hasHead
    · exact ⟨_, opened⟩

/-- Bytes with other letters are refused for them, or for being too few. -/
lemma ofBytes_binary_of_letters {bytes : List UInt8} (other : bytes.take 4 ≠ magic) :
    ofBytes .binary bytes
      = .error (if bytes.length < headLength then .missingHeader else .badMagic (bytes.take 4)) := by
  split
  · rename_i short
    exact ofBytes_binary_of_lacksHead (.short short)
  · rename_i long
    exact ofBytes_binary_of_lacksHead (.letters (Nat.le_of_not_lt long) other)

/-- A written text begins with its comment. -/
lemma take_encode_textOfPoints (points : List SampledPoint) :
    (Utf8.encode (textOfPoints points)).take headLength
      = (Utf8.encode headingText).take headLength := by
  have long : headLength ≤ (Utf8.encode headingText).length := by decide
  rw [textOfPoints, List.append_assoc, Utf8.encode_append, List.take_append_of_le_length long]

/-! ## Both encodings -/

/-- **No bytes are a trace in both encodings.**  What opens as a binary trace is refused as a text,
on its first line and as no text or no number; what opens as a text is refused as a binary trace,
for its length or its letters.  So a written trace is refused in the other encoding, whatever its
points are: for the letters of its comment on one side, for its first line on the other. -/
theorem encodings_exclude :
    (∀ bytes, ¬ ((∃ trace, ofBytes .binary bytes = .ok trace) ∧
        ∃ trace, ofBytes .ascii bytes = .ok trace) ∧
      (∀ trace, ofBytes .binary bytes = .ok trace →
        ∃ fault, ofBytes .ascii bytes = .error fault ∧ RefusesMagic fault) ∧
      (∀ trace, ofBytes .ascii bytes = .ok trace →
        ofBytes .binary bytes = .error (if bytes.length < headLength then .missingHeader
          else .badMagic (bytes.take 4)))) ∧
    ∀ points,
      ofBytes .binary (Utf8.encode (textOfPoints points)) = .error (.badMagic [35, 32, 114, 97]) ∧
      ∃ fault, ofBytes .ascii (bytesOfPoints points) = .error fault ∧ RefusesMagic fault := by
  refine ⟨fun bytes => ⟨?_, fun trace opened => ?_, fun trace opened => ?_⟩, fun points => ⟨?_, ?_⟩⟩
  · rintro ⟨binary, _, ascii⟩
    obtain ⟨fault, stopped, _⟩ := ofBytes_ascii_of_magic (exists_ofBytes_binary_iff.1 binary).letters
    cases stopped.symm.trans ascii
  · exact ofBytes_ascii_of_magic (exists_ofBytes_binary_iff.1 ⟨trace, opened⟩).letters
  · refine ofBytes_binary_of_letters fun letters => ?_
    obtain ⟨fault, stopped, _⟩ := ofBytes_ascii_of_magic letters
    cases stopped.symm.trans opened
  · have front := take_encode_textOfPoints points
    have letters : (Utf8.encode (textOfPoints points)).take 4 = [35, 32, 114, 97] := by
      have shorter := congrArg (List.take 4) front
      rw [List.take_take] at shorter
      exact shorter.trans (by decide)
    have long : ¬ (Utf8.encode (textOfPoints points)).length < headLength := by
      have length := congrArg List.length front
      have full : ((Utf8.encode headingText).take headLength).length = headLength := by decide
      rw [full, List.length_take] at length
      omega
    rw [ofBytes_binary_of_letters (by rw [letters]; decide), if_neg long, letters]
  · exact ofBytes_ascii_of_magic rfl

/-- A newline in the count cuts the head of ten points into two lines, and the first of them is
still refused; a text of one short line has no head. -/
theorem encodings_exclude_of_newline :
    let binary : List UInt8 := magic ++ [1, 0, 0, 0, 10, 0, 0, 0, 0, 0, 0, 0]
    let ascii : List UInt8 := [49, 48, 10]
    (∃ trace, ofBytes .binary binary = .ok trace) ∧
      (∃ fault, ofBytes .ascii binary = .error fault ∧ RefusesMagic fault) ∧
      (∃ trace, ofBytes .ascii ascii = .ok trace) ∧
      ofBytes .binary ascii = .error .missingHeader := by
  intro binary ascii
  obtain ⟨apart, -⟩ := encodings_exclude
  obtain ⟨trace, opened⟩ : ∃ trace, ofBytes .binary binary = .ok trace :=
    exists_ofBytes_binary_iff.2 ⟨by decide, by decide, by decide⟩
  obtain ⟨trace', opened'⟩ : ∃ trace, ofBytes .ascii ascii = .ok trace := ⟨_, rfl⟩
  exact ⟨⟨trace, opened⟩, (apart binary).2.1 trace opened, ⟨trace', opened'⟩,
    (apart ascii).2.2 trace' opened'⟩

end TraceReader
end Concordance
