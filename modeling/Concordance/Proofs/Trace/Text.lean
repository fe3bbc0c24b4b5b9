import Concordance.Proofs.Decimal.Reader
import Concordance.Proofs.Text.Utf8
import Concordance.Proofs.Trace.Calls
import Concordance.Trace.Reader

/-!
# Text traces are read as they were written

A text trace is a list of lines, and each line but the comment at its head is a list of fields.
So the round trip is that of lines (`linesOfBytes_encode`), that of the fields of a line
(`ofBytes_fields`) and that of each field.  What a record is read as depends on nothing around
it, and the reader takes one line for every call.

* `readRecord_lineOfPoint` is the round trip of one point.  All words that are no number share
  one text, so a point comes back as `SampledPoint.canonical`.
* `ofBytes_textOfPoints` is the round trip of a trace.
-/

namespace Concordance

/-- A point as its record brings it back: a word that is no number becomes the one NaN that
texts stand for, and everything else stays as it is. -/
def SampledPoint.canonical (p : SampledPoint) : SampledPoint where
  position := ⟨p.position.x.canonical, p.position.y.canonical, p.position.z.canonical⟩
  material := p.material
  density := p.density.canonical
  rank := p.rank

namespace Trace

open Text

/-! ## Lines -/

/-- Lines that each end in a newline byte are found again. -/
lemma linesOfBytes_flatMap {lines : List (List UInt8)}
    (whole : ∀ line ∈ lines, (10 : UInt8) ∉ line) :
    linesOfBytes (lines.flatMap (· ++ [10])) = lines := by
  have uncut : ∀ line ∈ lines, ∀ b ∈ line, (b == 10) = false := by
    intro line member b inside
    refine beq_false_of_ne ?_
    rintro rfl
    exact whole line member inside
  simp only [linesOfBytes]
  rw [pieces_flatMap_append (by decide) uncut, List.getLast?_concat, if_pos rfl,
    List.dropLast_concat]

lemma encode_flatMap (lines : List (List Char)) :
    Utf8.encode (lines.flatMap (· ++ ['\n'])) = (lines.map Utf8.encode).flatMap (· ++ [10]) := by
  induction lines with
  | nil => rfl
  | cons line rest ih =>
      rw [List.flatMap_cons, Utf8.encode_append, Utf8.encode_append, ih, List.map_cons,
        List.flatMap_cons]
      rfl

/-- **The lines of a text are found in its bytes.** -/
theorem linesOfBytes_encode {lines : List (List Char)} (whole : ∀ line ∈ lines, '\n' ∉ line) :
    linesOfBytes (Utf8.encode (lines.flatMap (· ++ ['\n']))) = lines.map Utf8.encode := by
  rw [encode_flatMap, linesOfBytes_flatMap]
  intro bytes member
  obtain ⟨line, listed, rfl⟩ := List.mem_map.1 member
  exact Utf8.newline_not_mem_encode (whole line listed)

/-- A line of fields is data, unless it looks like a comment. -/
lemma ofBytes_fields {fields : List (List Char)} (h : ∀ field ∈ fields, IsField field) {c : Char}
    {rest : List Char} (split : [' '].intercalate fields = c :: rest) (data : c ≠ '#') :
    TraceLine.ofBytes (Utf8.encode ([' '].intercalate fields))
      = .data ([' '].intercalate fields) := by
  rw [TraceLine.ofBytes, Utf8.decode?_encode]
  simp only [trim_intercalate h]
  rw [split]
  exact if_neg data

/-! ## Records -/

/-- The fields of a point, in the order in which they are written. -/
def fieldsOfPoint (p : SampledPoint) : List (List Char) :=
  [Decimal.intText p.rank.toInt, p.position.x.scientificText, p.position.y.scientificText,
    p.position.z.scientificText, p.material.text, p.density.scientificText]

/-- The line of a point without its newline. -/
def lineOfPoint (p : SampledPoint) : List Char := [' '].intercalate (fieldsOfPoint p)

lemma recordText_eq (p : SampledPoint) : recordText p = lineOfPoint p ++ ['\n'] := by
  simp only [recordText, lineOfPoint, fieldsOfPoint, List.intercalate_cons_cons,
    List.intercalate_singleton, List.append_assoc, List.cons_append, List.nil_append]

lemma isField_of_mem_fieldsOfPoint (p : SampledPoint) :
    ∀ field ∈ fieldsOfPoint p, IsField field := by
  simp only [fieldsOfPoint, List.forall_mem_cons, MaterialId.text]
  exact ⟨isField_intText _, Binary64.isField_scientificText _, Binary64.isField_scientificText _,
    Binary64.isField_scientificText _, isField_intText _, Binary64.isField_scientificText _,
    fun _ member => absurd member List.not_mem_nil⟩

@[simp] lemma readIntegerField_intText (field : Nat) (n : Int64) :
    readIntegerField field (Decimal.intText n.toInt) = .ok n := by
  rw [readIntegerField, readInteger_intText]

@[simp] lemma readFloatField_scientificText (field : Nat) (x : Binary64) :
    readFloatField field x.scientificText = .ok x.canonical := by
  rw [readFloatField, Binary64.ofText?_scientificText]

/-- **A point is read back from its record.** -/
theorem readRecord_lineOfPoint (line : Nat) (p : SampledPoint) :
    readRecord line (lineOfPoint p) = .ok p.canonical := by
  have fields : readFields (fieldsOfPoint p) = .ok p.canonical := by
    simp only [readFields, fieldsOfPoint, MaterialId.text, readIntegerField_intText,
      readFloatField_scientificText]
    rfl
  rw [readRecord, lineOfPoint, words_intercalate (isField_of_mem_fieldsOfPoint p), fields]

lemma intText_eq_cons (n : Int) : ∃ c rest, Decimal.intText n = c :: rest ∧ c ≠ '#' := by
  obtain ⟨c, rest, split, digit⟩ := Decimal.natText_eq_cons n.natAbs
  rw [Decimal.intText]
  by_cases negative : n < 0
  · rw [if_pos negative]
    exact ⟨'-', _, rfl, by decide⟩
  · rw [if_neg negative]
    exact ⟨c, rest, split, Decimal.ne_of_isDigit digit (by decide)⟩

/-- A record begins with a digit or a sign, so it is no comment. -/
lemma ofBytes_lineOfPoint (p : SampledPoint) :
    TraceLine.ofBytes (Utf8.encode (lineOfPoint p)) = .data (lineOfPoint p) := by
  obtain ⟨c, rest, first, data⟩ := intText_eq_cons p.rank.toInt
  obtain ⟨others, split⟩ : ∃ others, lineOfPoint p = c :: others := by
    rw [lineOfPoint, fieldsOfPoint, List.intercalate_cons_cons, first]
    exact ⟨_, rfl⟩
  exact ofBytes_fields (isField_of_mem_fieldsOfPoint p) split data

/-! ## The head -/

/-- The comment at the head without its newline. -/
def headingLine : List Char :=
  ['#', ' ', 'r', 'a', 'n', 'k', ' ', 'x', ' ', 'y', ' ', 'z', ' ', 'm', 'a', 't', 'e', 'r', 'i',
    'a', 'l', ' ', 'd', 'e', 'n', 's', 'i', 't', 'y']

lemma headingText_eq : headingText = headingLine ++ ['\n'] := String.toList_ofList

/-- The lines of a trace. -/
def linesOfPoints (points : List SampledPoint) : List (List Char) :=
  headingLine :: Decimal.natText points.length :: points.map lineOfPoint

lemma textOfPoints_eq (points : List SampledPoint) :
    textOfPoints points = (linesOfPoints points).flatMap (· ++ ['\n']) := by
  have records : points.flatMap recordText = (points.map lineOfPoint).flatMap (· ++ ['\n']) := by
    rw [List.flatMap_map]
    exact congrArg points.flatMap (funext recordText_eq)
  rw [textOfPoints, headingText_eq, records, linesOfPoints, List.flatMap_cons, List.flatMap_cons,
    List.append_assoc, List.append_assoc, List.append_assoc, List.append_assoc]
  rfl

lemma newline_not_mem_linesOfPoints (points : List SampledPoint) :
    ∀ line ∈ linesOfPoints points, '\n' ∉ line := by
  have count : '\n' ∉ Decimal.natText points.length := fun member =>
    absurd (Decimal.isDigit_of_mem_natText member) (by decide)
  refine List.forall_mem_cons.2 ⟨by decide, List.forall_mem_cons.2 ⟨count, ?_⟩⟩
  intro line member
  obtain ⟨p, _, rfl⟩ := List.mem_map.1 member
  exact newline_not_mem_intercalate (isField_of_mem_fieldsOfPoint p)

lemma ofBytes_headingLine : TraceLine.ofBytes (Utf8.encode headingLine) = .skipped := by
  have trimmed : trim headingLine = headingLine := by decide
  rw [TraceLine.ofBytes, Utf8.decode?_encode]
  simp only [trimmed]
  rfl

lemma ofBytes_natText (n : Nat) :
    TraceLine.ofBytes (Utf8.encode (Decimal.natText n)) = .data (Decimal.natText n) := by
  obtain ⟨c, rest, split, digit⟩ := Decimal.natText_eq_cons n
  have one := List.forall_mem_singleton.2 (isField_natText n)
  have data := Decimal.ne_of_isDigit digit (by decide : '#'.isDigit = false)
  have line := ofBytes_fields one (by rw [List.intercalate_singleton, split]) data
  rwa [List.intercalate_singleton] at line

end Trace

namespace TraceReader

open PointSource Trace

/-! ## Calls -/

/-- A text trace whose lines to come are the records of points. -/
def ofRecords (declared : Nat) (points : List SampledPoint) (line : Nat) : TraceReader :=
  ⟨declared, .ascii ⟨(points.map lineOfPoint).map Utf8.encode, line⟩⟩

/-- The comment is passed over and the number of points is read. -/
lemma openLines_linesOfPoints {points : List SampledPoint}
    (countable : points.length < UInt64.size) :
    openLines ((linesOfPoints points).map Utf8.encode)
      = .ok (ofRecords points.length points 2) := by
  rw [linesOfPoints, List.map_cons, List.map_cons, openLines, LineReader.next,
    ofBytes_headingLine]
  simp only [LineReader.next, ofBytes_natText, readCount, Text.readNatural_natText countable]
  rfl

/-- A call is answered by the record at the front, and nothing follows the last one. -/
lemma next_ofRecords (declared : Nat) (points : List SampledPoint) (line : Nat) :
    ∃ later, next (ofRecords declared points line)
      = (.ok (points.head?.map SampledPoint.canonical), ofRecords declared points.tail later) := by
  cases points with
  | nil => exact ⟨line, rfl⟩
  | cons p rest =>
      refine ⟨line + 1, ?_⟩
      simp only [next, ofRecords, nextOfLines, List.map_cons, LineReader.next,
        ofBytes_lineOfPoint, readRecord_lineOfPoint]
      rfl

/-- Every call takes one record, as long as there are records. -/
lemma after_ofRecords (declared : Nat) (points : List SampledPoint) (line n : Nat) :
    ∃ later, after (ofRecords declared points line) n
      = ofRecords declared (points.drop n) later := by
  induction n generalizing points line with
  | zero => exact ⟨line, rfl⟩
  | succ n ih =>
      obtain ⟨second, step⟩ := next_ofRecords declared points line
      obtain ⟨later, rest⟩ := ih points.tail second
      have second_call : (PointSource.next (ofRecords declared points line)).2
          = ofRecords declared points.tail second := congrArg Prod.snd step
      exact ⟨later, by rw [after_succ, second_call, rest, List.drop_tail]⟩

/-- **A text trace is read as it was written.**  As long as a word holds the number of points,
the bytes open as a trace that announces it, call number `n` answers point number `n`, and every
later call answers that there is none.  Ranks and materials are equal, and so is every double bit
by bit unless it is no number; what is no number is read as `Binary64.nan`. -/
theorem ofBytes_textOfPoints (points : List SampledPoint)
    (countable : points.length < UInt64.size) :
    ∃ trace, ofBytes .ascii (Utf8.encode (textOfPoints points)) = .ok trace ∧
      declared trace = some points.length ∧
      ∀ n, answer trace n = .ok (points[n]?.map SampledPoint.canonical) := by
  refine ⟨ofRecords points.length points 2, ?_, rfl, ?_⟩
  · rw [ofBytes, textOfPoints_eq, linesOfBytes_encode (newline_not_mem_linesOfPoints points)]
    exact openLines_linesOfPoints countable
  · intro n
    obtain ⟨line, left⟩ := after_ofRecords points.length points 2 n
    obtain ⟨_, step⟩ := next_ofRecords points.length (points.drop n) line
    rw [answer, left, ← List.head?_drop]
    exact congrArg Prod.fst step

/-- A signalling pattern that is no number, an infinity, a negative zero and the least positive
double, between the largest and the least integer. -/
theorem ofBytes_textOfPoints_extreme :
    let point (x : Binary64) : SampledPoint :=
      ⟨⟨x, .negInfinity, ⟨0x8000000000000000⟩⟩, ⟨Int64.minValue⟩, ⟨1⟩, Int64.maxValue⟩
    let points := [point ⟨0xfff0000000000001⟩, point .zero]
    points.length < UInt64.size ∧
      ∃ trace, ofBytes .ascii (Utf8.encode (textOfPoints points)) = .ok trace ∧
        answer trace 0 = .ok (some (point ⟨0x7ff8000000000000⟩)) ∧
        answer trace 1 = .ok (some (point .zero)) ∧ answer trace 2 = .ok none := by
  intro point points
  have countable : points.length < UInt64.size := by decide
  have quiet : (point ⟨0xfff0000000000001⟩).canonical = point ⟨0x7ff8000000000000⟩ := by
    decide
  have same : (point .zero).canonical = point .zero := by decide
  obtain ⟨trace, opened, _, answers⟩ := ofBytes_textOfPoints points countable
  have first := answers 0
  have second := answers 1
  exact ⟨countable, trace, opened, quiet ▸ first, same ▸ second, answers 2⟩

end TraceReader
end Concordance
