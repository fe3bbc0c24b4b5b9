import Concordance.Proofs.Trace.Calls
import Concordance.Proofs.Trace.LineGrammar
import Concordance.Trace.Reader

/-!
# The account that a text trace gives

The first telling line of a trace is its head, and each later one answers one call, whatever the
calls before it answered.

* `HeadTells` and `LineTells` say what a telling line stands for, faults included.
* `next_eq` is the step: the reader finds the first telling line and leaves the others.
* `ofBytes_ascii_spec` puts the calls together.  The number of a line in a fault is left open, so
  skipped lines can be put in or taken out without a change of the account that a trace gives.
-/

namespace Concordance

namespace Trace

open Text

/-! ## Telling lines -/

/-- The number in the head of a trace, or the fault, by the first telling line. -/
inductive HeadTells : Option (List UInt8) → Except TraceFault Nat → Prop
  | missing : HeadTells none (.error .missingHeader)
  | unreadable {line : List UInt8} (noText : ∀ cs, line ≠ Utf8.encode cs) :
      HeadTells (some line) (.error (.file .notText))
  | count {cs : List Char} {n : Nat} (natural : NaturalText (trim cs) n) :
      HeadTells (some (Utf8.encode cs)) (.ok n)
  | bad {cs : List Char} {number : Nat} {fault : IntegerFault}
      (refused : readNatural (trim cs) = .error fault) (other : ∀ n, ¬ NaturalText (trim cs) n) :
      HeadTells (some (Utf8.encode cs)) (.error (.malformed number (.badCount (trim cs) fault)))

/-- The answer to a call, by the telling line that it reads. -/
inductive LineTells : Option (List UInt8) → Except TraceFault (Option SampledPoint) → Prop
  | done : LineTells none (.ok none)
  | unreadable {line : List UInt8} (noText : ∀ cs, line ≠ Utf8.encode cs) :
      LineTells (some line) (.error (.file .notText))
  | point {cs : List Char} {p : SampledPoint} (record : RecordTells (words (trim cs)) (.ok p)) :
      LineTells (some (Utf8.encode cs)) (.ok (some p))
  | malformed {cs : List Char} {number : Nat} {fault : RecordFault}
      (record : RecordTells (words (trim cs)) (.error fault)) :
      LineTells (some (Utf8.encode cs)) (.error (.malformed number fault))

/-- What the reader finds on its way to the next telling line. -/
inductive Finds : Option (List UInt8) → Except FileFault (Option (List Char)) → Prop
  | done : Finds none (.ok none)
  | unreadable {line : List UInt8} (noText : ∀ cs, line ≠ Utf8.encode cs) :
      Finds (some line) (.error .notText)
  | data {cs : List Char} : Finds (some (Utf8.encode cs)) (.ok (some (trim cs)))

lemma telling_cons_of_skipped {line : List UInt8} (skipped : IsSkipped line)
    (lines : List (List UInt8)) : telling (line :: lines) = telling lines :=
  List.filter_cons_of_neg (by simpa using skipped)

lemma telling_cons {line : List UInt8} (tells : ¬ IsSkipped line) (lines : List (List UInt8)) :
    telling (line :: lines) = line :: telling lines :=
  List.filter_cons_of_pos (by simpa using tells)

/-- **The reader finds the first telling line**, and leaves the other telling lines to be read. -/
theorem next_eq (count : Nat) (lines : List (List UInt8)) :
    ∃ found rest number, LineReader.next count lines = (found, ⟨rest, number⟩) ∧
      Finds (telling lines).head? found ∧ telling rest = (telling lines).tail := by
  induction lines generalizing count with
  | nil => exact ⟨_, _, _, rfl, .done, rfl⟩
  | cons line rest ih =>
      rw [LineReader.next]
      rcases ofBytes_cases line with ⟨kind, noText⟩ | ⟨kind, skipped⟩ | ⟨cs, rfl, tells, kind⟩
      · have tells : ¬ IsSkipped line := by
          rintro ⟨cs, same, _⟩
          exact noText cs same
        rw [kind, telling_cons tells]
        exact ⟨_, _, _, rfl, .unreadable noText, rfl⟩
      · rw [kind, telling_cons_of_skipped skipped]
        exact ih (count + 1)
      · rw [kind, telling_cons tells]
        exact ⟨_, _, _, rfl, .data, rfl⟩

end Trace

namespace TraceReader

open PointSource Trace

/-! ## Calls -/

/-- A call answers by the first telling line that is left. -/
lemma nextOfLines_eq (lines : List (List UInt8)) (count : Nat) :
    ∃ result rest number, nextOfLines ⟨lines, count⟩ = (result, ⟨rest, number⟩) ∧
      LineTells (telling lines).head? result ∧ telling rest = (telling lines).tail := by
  obtain ⟨found, rest, number, step, finds, left⟩ := next_eq count lines
  simp only [nextOfLines, step]
  generalize (telling lines).head? = head at finds
  cases finds with
  | done => exact ⟨_, _, _, rfl, .done, left⟩
  | unreadable noText => exact ⟨_, _, _, rfl, .unreadable noText, left⟩
  | @data cs =>
      refine ⟨_, _, _, rfl, ?_, left⟩
      simp only [readRecord]
      cases read : readFields (Text.words (Text.trim cs)) with
      | ok p => exact .point (readFields_eq_iff.1 read)
      | error fault => exact .malformed (readFields_eq_iff.1 read)

/-- Calls take the telling lines one by one, whatever they answer. -/
lemma after_eq_of_lines (count : Nat) (lines : List (List UInt8)) (number k : Nat) :
    ∃ rest later, after (⟨count, .ascii ⟨lines, number⟩⟩ : TraceReader) k
        = ⟨count, .ascii ⟨rest, later⟩⟩ ∧ telling rest = (telling lines).drop k := by
  induction k generalizing lines number with
  | zero => exact ⟨lines, number, rfl, rfl⟩
  | succ k ih =>
      obtain ⟨result, rest, middle, step, _, left⟩ := nextOfLines_eq lines number
      obtain ⟨others, later, reached, remain⟩ := ih rest middle
      refine ⟨others, later, ?_, ?_⟩
      · rw [← reached, after_succ]
        congr 1
        change (TraceReader.next _).2 = _
        simp only [TraceReader.next, step]
      · rw [remain, left, List.drop_tail]

lemma lineTells_answer (count : Nat) (lines : List (List UInt8)) (number k : Nat) :
    LineTells (telling lines)[k]? (answer (⟨count, .ascii ⟨lines, number⟩⟩ : TraceReader) k) := by
  obtain ⟨rest, later, reached, left⟩ := after_eq_of_lines count lines number k
  obtain ⟨result, others, last, step, tells, _⟩ := nextOfLines_eq rest later
  rw [left, List.head?_drop] at tells
  rw [answer, reached]
  change LineTells _ (TraceReader.next _).1
  simp only [TraceReader.next, step]
  exact tells

/-- A trace is opened by its first telling line, and the others are left for the calls. -/
lemma openLines_eq (lines : List (List UInt8)) :
    (∃ fault, openLines lines = .error fault ∧ HeadTells (telling lines).head? (.error fault)) ∨
    ∃ count rest number, openLines lines = .ok ⟨count, .ascii ⟨rest, number⟩⟩ ∧
      HeadTells (telling lines).head? (.ok count) ∧ telling rest = (telling lines).tail := by
  obtain ⟨found, rest, number, step, finds, left⟩ := next_eq 0 lines
  simp only [openLines, step]
  generalize (telling lines).head? = head at finds
  cases finds with
  | done => exact .inl ⟨_, rfl, .missing⟩
  | unreadable noText => exact .inl ⟨_, rfl, .unreadable noText⟩
  | @data cs =>
      simp only [readCount]
      cases read : Text.readNatural (Text.trim cs) with
      | ok n => exact .inr ⟨n, rest, number, rfl, .count (Text.readNatural_eq_ok_iff.1 read), left⟩
      | error fault =>
          refine .inl ⟨_, rfl, .bad read fun n natural => ?_⟩
          rw [Text.readNatural_eq_ok_iff.2 natural] at read
          cases read

/-! ## The account of a trace -/

/-- A result that is none of the faults was there before they were changed. -/
lemma eq_ok_of_mapError {α ε δ : Type} {change : ε → δ} {result : Except ε α} {value : α}
    (h : result.mapError change = .ok value) : result = .ok value := by
  cases result with
  | error fault => cases h
  | ok found =>
      cases h
      rfl

/-- A fault without the number of the line that it names. -/
def unnumbered : TraceFault → TraceFault
  | .malformed _ fault => .malformed 0 fault
  | fault => fault

/-- All that a trace says, the numbers of lines apart: the fault that opening it ends in, or the
number in its head and the answers to all calls. -/
def account (opened : Except TraceFault TraceReader) :
    Except TraceFault (Nat × (Nat → Except TraceFault (Option SampledPoint))) :=
  match opened with
  | .error fault => .error (unnumbered fault)
  | .ok trace => .ok (trace.declared, fun k => (answer trace k).mapError unnumbered)

/-- What a head tells, without the number of its line. -/
def headOf : Option (List UInt8) → Except TraceFault Nat
  | none => .error .missingHeader
  | some line => match Utf8.decode? line with
    | none => .error (.file .notText)
    | some cs => (readCount 0 (Text.trim cs))

/-- What a later line tells, without its number. -/
def recordOf : Option (List UInt8) → Except TraceFault (Option SampledPoint)
  | none => .ok none
  | some line => match Utf8.decode? line with
    | none => .error (.file .notText)
    | some cs => (readRecord 0 (Text.trim cs)).map some

lemma mapError_of_headTells {head : Option (List UInt8)} {r : Except TraceFault Nat}
    (h : HeadTells head r) : r.mapError unnumbered = headOf head := by
  cases h with
  | missing => rfl
  | unreadable noText =>
      rw [headOf, decode?_of_noText noText]
      rfl
  | count natural =>
      simp only [headOf, Utf8.decode?_encode, readCount, Text.readNatural_eq_ok_iff.2 natural]
      rfl
  | bad refused _ =>
      simp only [headOf, Utf8.decode?_encode, readCount, refused]
      rfl

lemma mapError_of_lineTells {line : Option (List UInt8)}
    {r : Except TraceFault (Option SampledPoint)} (h : LineTells line r) :
    r.mapError unnumbered = recordOf line := by
  cases h with
  | done => rfl
  | unreadable noText =>
      rw [recordOf, decode?_of_noText noText]
      rfl
  | point record =>
      simp only [recordOf, Utf8.decode?_encode, readRecord, readFields_eq_iff.2 record]
      rfl
  | malformed record =>
      simp only [recordOf, Utf8.decode?_encode, readRecord, readFields_eq_iff.2 record]
      rfl

/-- **The telling lines are all that the account of a trace depends on.** -/
theorem account_openLines (lines : List (List UInt8)) :
    account (openLines lines) = (headOf (telling lines).head?).map fun count =>
      (count, fun k => recordOf (telling lines)[k + 1]?) := by
  rcases openLines_eq lines with ⟨fault, opened, tells⟩ | ⟨count, rest, number, opened, tells, left⟩
  · rw [opened, account, ← mapError_of_headTells tells]
    rfl
  · have answers : (fun k => (answer (⟨count, .ascii ⟨rest, number⟩⟩ : TraceReader) k).mapError
        unnumbered) = fun k => recordOf (telling lines)[k + 1]? := by
      funext k
      rw [mapError_of_lineTells (lineTells_answer count rest number k), left, List.getElem?_tail]
    rw [opened, account, ← mapError_of_headTells tells, answers]
    rfl

/-- **The reader of text traces follows the line grammar.**  Any list of bytes has one list of
lines.  The first line that is not skipped decides how the trace opens, and call number `k` is
answered by the line number `k` of those behind it that are not skipped, or with the end if there
is no such line; no fault ends the trace or takes a line from another call.  Two lists of bytes
that differ in skipped lines only give the same account, the numbers of lines apart. -/
theorem ofBytes_ascii_spec (bytes : List UInt8) :
    ∃ lines, CutInto bytes lines ∧
      HeadTells (telling lines).head? ((ofBytes .ascii bytes).map TraceReader.declared) ∧
      (∀ trace, ofBytes .ascii bytes = .ok trace →
        PointSource.declared trace = some trace.declared ∧
        ∀ k, LineTells (telling lines)[k + 1]? (answer trace k)) ∧
      ∀ bytes' lines', CutInto bytes' lines' → telling lines' = telling lines →
        account (ofBytes .ascii bytes') = account (ofBytes .ascii bytes) := by
  refine ⟨linesOfBytes bytes, cutInto_iff.2 rfl, ?_, ?_, ?_⟩
  · rcases openLines_eq (linesOfBytes bytes) with ⟨fault, opened, tells⟩ |
      ⟨count, rest, number, opened, tells, _⟩
    · rw [ofBytes, opened]
      exact tells
    · rw [ofBytes, opened]
      exact tells
  · intro trace ok
    refine ⟨rfl, fun k => ?_⟩
    rcases openLines_eq (linesOfBytes bytes) with ⟨fault, opened, _⟩ |
      ⟨count, rest, number, opened, _, left⟩
    · cases opened.symm.trans ok
    · cases opened.symm.trans ok
      rw [← List.getElem?_tail, ← left]
      exact lineTells_answer count rest number k
  · intro bytes' lines' cut same
    rw [ofBytes, ofBytes, account_openLines, account_openLines, cutInto_iff.1 cut, same]

/-- A head with a sign, a byte that is no text, a record of six fields and a line without its
newline give the same account with a comment in front of them and without it: two faults with a
point between them, and then the end. -/
theorem ofBytes_ascii_spec_noisy :
    let record : List UInt8 := [55, 32, 48, 32, 46, 53, 32, 45, 48, 32, 51, 9, 49]
    let bare : List UInt8 := [43, 50, 10, 255, 10] ++ record ++ [10, 49]
    let bytes : List UInt8 := [32, 35, 49, 10] ++ bare
    CutInto bare [[43, 50], [255], record, [49]] ∧ ∃ trace, ofBytes .ascii bytes = .ok trace ∧
      trace.declared = 2 ∧
      (answer trace 0).mapError unnumbered = .error (.file .notText) ∧
      answer trace 1
        = .ok (some ⟨⟨.zero, ⟨0x3fe0000000000000⟩, -.zero⟩, ⟨3⟩, ⟨0x3ff0000000000000⟩, 7⟩) ∧
      (answer trace 2).mapError unnumbered = .error (.malformed 0 (.fieldCount 1)) ∧
      (answer trace 3).mapError unnumbered = .ok none ∧
      account (ofBytes .ascii bare) = account (ofBytes .ascii bytes) := by
  intro record bare bytes
  have bare_lines : CutInto bare [[43, 50], [255], record, [49]] := cutInto_iff.2 (by decide)
  obtain ⟨lines, cut, head, calls, same⟩ := ofBytes_ascii_spec bytes
  obtain rfl : lines = [[32, 35, 49], [43, 50], [255], record, [49]] :=
    (cutInto_iff.1 cut).symm.trans (by decide)
  have tells : telling [[32, 35, 49], [43, 50], [255], record, [49]]
      = [[43, 50], [255], record, [49]] := by decide
  have bare_tells : telling [[43, 50], [255], record, [49]] = [[43, 50], [255], record, [49]] := by
    decide
  have count : headOf (some [43, 50]) = .ok 2 := by decide
  have point : recordOf (some record)
      = .ok (some ⟨⟨.zero, ⟨0x3fe0000000000000⟩, -.zero⟩, ⟨3⟩, ⟨0x3ff0000000000000⟩, 7⟩) := by
    decide +kernel
  rw [tells] at head calls same
  have opening := (mapError_of_headTells head).trans count
  cases opened : ofBytes .ascii bytes with
  | error fault =>
      rw [opened] at opening
      cases opening
  | ok trace =>
      rw [opened] at opening
      obtain ⟨_, answers⟩ := calls trace opened
      have first := mapError_of_lineTells (answers 0)
      have second := (mapError_of_lineTells (answers 1)).trans point
      have third := mapError_of_lineTells (answers 2)
      have fourth := mapError_of_lineTells (answers 3)
      exact ⟨bare_lines, trace, rfl, Except.ok.inj opening, first, eq_ok_of_mapError second, third,
        fourth, opened ▸ same bare _ bare_lines bare_tells⟩

end TraceReader
end Concordance
