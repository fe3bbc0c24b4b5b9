import Concordance.Proofs.Trace.Account

/-!
# The numbers of malformed lines

A fault names its line by a number that the reader counts up.  The reader counts the lines that
are texts: a line that is no text ends the call before it is counted.  So the number of a line is
its place among the texts, and it is its place in the trace only as long as all lines before it
are texts.

* `TellsAt` says at which place the line stands that a call reads, and `texts` counts the texts.
* `next_passes` is the step, and `Passed` is what it keeps: the lines passed over and the number
  of texts among them.
* `number_of_malformed` is the run, by induction on the calls.
* `malformed_numbers` puts the head in front.  No line before the head can be unreadable, so its
  number is always its place; so are all numbers in a trace that is a text
  (`isText_of_mem_linesOfBytes`).
* `number_not_always_place` is a trace with an unreadable line.
-/

namespace Concordance

namespace Trace

open Text

/-! ## Places and numbers -/

/-- The place of a telling line, with as many telling lines before it as stated. -/
structure TellsAt (lines : List (List UInt8)) (earlier place : Nat) (line : List UInt8) : Prop where
  found : lines[place]? = some line
  tells : ¬ IsSkipped line
  before : (telling (lines.take place)).length = earlier

/-- A line whose bytes are those of a text. -/
def IsText (line : List UInt8) : Prop := ∃ cs, line = Utf8.encode cs

lemma isSome_decode?_iff {line : List UInt8} : (Utf8.decode? line).isSome = true ↔ IsText line := by
  simp only [Option.isSome_iff_exists, Utf8.decode?_eq_some_iff, IsText]

/-- The number of lines that are texts. -/
def texts (lines : List (List UInt8)) : Nat := lines.countP fun line => (Utf8.decode? line).isSome

lemma texts_append (front back : List (List UInt8)) :
    texts (front ++ back) = texts front + texts back := List.countP_append

lemma texts_eq_length_iff {lines : List (List UInt8)} :
    texts lines = lines.length ↔ ∀ line ∈ lines, IsText line := by
  simp only [texts, List.countP_eq_length, isSome_decode?_iff]

lemma texts_of_isText {line : List UInt8} (text : IsText line) : texts [line] = 1 :=
  texts_eq_length_iff.2 (by simpa using text)

lemma texts_of_noText {line : List UInt8} (noText : ∀ cs, line ≠ Utf8.encode cs) :
    texts [line] = 0 := by
  simp [texts, decode?_of_noText noText]

lemma IsSkipped.isText {line : List UInt8} (skipped : IsSkipped line) : IsText line := by
  obtain ⟨cs, same, _⟩ := skipped
  exact ⟨cs, same⟩

lemma telling_append (front back : List (List UInt8)) :
    telling (front ++ back) = telling front ++ telling back := List.filter_append ..

lemma telling_of_skipped {lines : List (List UInt8)} (skipped : ∀ line ∈ lines, IsSkipped line) :
    telling lines = [] := by
  simpa [telling] using skipped

/-- A place is found by what stands before it. -/
lemma tellsAt_of_append (front rest : List (List UInt8)) {line : List UInt8}
    (tells : ¬ IsSkipped line) :
    TellsAt (front ++ line :: rest) (telling front).length front.length line where
  found := by simp
  tells := tells
  before := by simp

lemma TellsAt.earlier_lt {lines : List (List UInt8)} {earlier place : Nat} {line : List UInt8}
    (h : TellsAt lines earlier place line) : earlier < (telling lines).length := by
  obtain ⟨inside, same⟩ := List.getElem?_eq_some_iff.1 h.found
  have whole : lines = lines.take place ++ line :: lines.drop (place + 1) := by
    rw [← same, List.cons_getElem_drop_succ, List.take_append_drop]
  rw [whole, telling_append, telling_cons h.tells, List.length_append, List.length_cons, h.before]
  omega

/-- The texts among the lines before a place are as many as those lines if they are all texts. -/
lemma TellsAt.texts_eq_iff {lines : List (List UInt8)} {earlier place : Nat} {line : List UInt8}
    (h : TellsAt lines earlier place line) :
    texts (lines.take place) = place ↔ ∀ other ∈ lines.take place, IsText other := by
  have inside := (List.getElem?_eq_some_iff.1 h.found).1
  have length : (lines.take place).length = place := List.length_take_of_le inside.le
  rw [← texts_eq_length_iff, length]

/-- All lines of a text are texts. -/
theorem isText_of_mem_linesOfBytes (cs : List Char) :
    ∀ line ∈ linesOfBytes (Utf8.encode cs), IsText line := by
  -- the rest behind the first newline is shorter, so the induction is on the length
  induction size : cs.length using Nat.strongRecOn generalizing cs with
  | ind n ih =>
      by_cases newline : '\n' ∈ cs
      · obtain ⟨front, rest, rfl, whole⟩ := List.eq_append_cons_of_mem newline
        have shorter : rest.length < n := by
          rw [← size, List.length_append, List.length_cons]
          omega
        have bytes : Utf8.encode (front ++ '\n' :: rest)
            = Utf8.encode front ++ 10 :: Utf8.encode rest := Utf8.encode_append front _
        rw [bytes, linesOfBytes_append_cons (Utf8.newline_not_mem_encode whole)]
        exact List.forall_mem_cons.2 ⟨⟨front, rfl⟩, ih _ shorter rest rfl⟩
      · intro line member
        by_cases empty : Utf8.encode cs = []
        · rw [empty] at member
          cases member
        · rw [linesOfBytes_of_last empty (Utf8.newline_not_mem_encode newline)] at member
          exact ⟨cs, List.mem_singleton.1 member⟩

/-! ## What the reader passes over -/

/-- **The reader passes over skipped lines up to a telling one**, or the end, and counts the
texts among the lines that it has passed. -/
theorem next_passes (count : Nat) (lines : List (List UInt8)) :
    ∃ found skipped last rest, lines = skipped ++ Option.toList last ++ rest ∧
      LineReader.next count lines
        = (found, ⟨rest, count + texts (skipped ++ Option.toList last)⟩) ∧
      (∀ line ∈ skipped, IsSkipped line) ∧ (∀ line ∈ last, ¬ IsSkipped line) ∧
      (last = none → rest = []) ∧ Finds last found := by
  induction lines generalizing count with
  | nil => exact ⟨_, [], none, [], rfl, rfl, by simp, by simp, fun _ => rfl, .done⟩
  | cons line rest ih =>
      rw [LineReader.next]
      rcases ofBytes_cases line with ⟨kind, noText⟩ | ⟨kind, skip⟩ | ⟨cs, rfl, tells, kind⟩
      · have tells : ¬ IsSkipped line := fun skip => by
          obtain ⟨cs, same⟩ := skip.isText
          exact noText cs same
        refine ⟨_, [], some line, rest, rfl, ?_, by simp, by simpa using tells, by simp,
          .unreadable noText⟩
        simp [kind, texts_of_noText noText]
      · obtain ⟨found, skipped, last, rest', split, step, all, telling, ended, finds⟩ :=
          ih (count + 1)
        have counted : texts (line :: (skipped ++ Option.toList last))
            = 1 + texts (skipped ++ Option.toList last) := by
          rw [← List.singleton_append, texts_append, texts_of_isText skip.isText]
        refine ⟨found, line :: skipped, last, rest', by simp [split], ?_,
          List.forall_mem_cons.2 ⟨skip, all⟩, telling, ended, finds⟩
        simp only [kind, step, List.cons_append, counted, Nat.add_assoc]
      · refine ⟨_, [], some (Utf8.encode cs), rest, rfl, ?_, by simp, by simpa using tells,
          by simp, .data⟩
        simp [kind, texts_of_isText ⟨cs, rfl⟩]

/-- What a reader has passed over of a trace: its counter is the number of texts among them. -/
structure Passed (lines passed : List (List UInt8)) (reader : LineReader) : Prop where
  split : lines = passed ++ reader.rest
  counted : reader.line = texts passed

end Trace

namespace TraceReader

open PointSource Trace

variable {lines passed : List (List UInt8)} {reader : LineReader} {declared k number : Nat}
  {fault : RecordFault}

/-! ## Calls -/

lemma isText_of_lineTells {line : List UInt8}
    (told : LineTells (some line) (.error (.malformed number fault))) : IsText line := by
  cases told with
  | @malformed cs => exact ⟨cs, rfl⟩

/-- One call goes on to the next telling line, and that is the line that it finds malformed. -/
lemma nextOfLines_passed (h : Passed lines passed reader) :
    ∃ result skipped last later, nextOfLines reader = (result, later) ∧
      Passed lines (passed ++ skipped ++ Option.toList last) later ∧ telling skipped = [] ∧
      (∀ line ∈ last, ¬ IsSkipped line) ∧ (last = none → later.rest = []) ∧
      ∀ number fault, result = .error (.malformed number fault) →
        number = later.line ∧ ∃ line, last = some line ∧
          LineTells (some line) (.error (.malformed number fault)) := by
  obtain ⟨found, skipped, last, rest, split, step, all, tells, ended, finds⟩ :=
    next_passes reader.line reader.rest
  have none_tells := telling_of_skipped all
  have keeps : Passed lines (passed ++ skipped ++ Option.toList last)
      ⟨rest, reader.line + texts (skipped ++ Option.toList last)⟩ := by
    constructor
    · rw [h.split, split, List.append_assoc, List.append_assoc, List.append_assoc]
    · rw [List.append_assoc, texts_append passed, h.counted]
  rw [nextOfLines, step]
  cases finds with
  | done => exact ⟨_, _, none, _, rfl, keeps, none_tells, tells, ended, by simp⟩
  | unreadable noText => exact ⟨_, _, some _, _, rfl, keeps, none_tells, tells, ended, by simp⟩
  | @data cs =>
      refine ⟨_, _, some _, _, rfl, keeps, none_tells, tells, ended, ?_⟩
      intro number fault stopped
      simp only [readRecord] at stopped
      cases read : readFields (Text.words (Text.trim cs)) with
      | ok p => simp [read, Except.map] at stopped
      | error fault' =>
          obtain ⟨rfl, rfl⟩ : _ = number ∧ fault' = fault := by
            simpa [read, Except.map] using stopped
          exact ⟨rfl, _, rfl, .malformed (readFields_eq_iff.1 read)⟩

section

variable {result : Except TraceFault (Option SampledPoint)} {later : LineReader}
  (step : nextOfLines reader = (result, later))

include step

lemma next_of_step : next (⟨declared, .ascii reader⟩ : TraceReader)
    = (result, ⟨declared, .ascii later⟩) := by
  simp only [next, step]

lemma answer_zero_of_step : answer (⟨declared, .ascii reader⟩ : TraceReader) 0 = result :=
  congrArg Prod.fst (next_of_step step)

lemma answer_succ_of_step : answer (⟨declared, .ascii reader⟩ : TraceReader) (k + 1)
    = answer (⟨declared, .ascii later⟩ : TraceReader) k :=
  congrArg (fun trace => answer trace k) (congrArg Prod.snd (next_of_step step))

end

/-- **A malformed line has the number of texts up to it.**  Which line it is follows from the
number of calls: each takes one telling line. -/
theorem number_of_malformed (h : Passed lines passed reader)
    (answered : answer (⟨declared, .ascii reader⟩ : TraceReader) k
      = .error (.malformed number fault)) :
    ∃ place line, TellsAt lines ((telling passed).length + k) place line ∧
      LineTells (some line) (.error (.malformed number fault)) ∧
      number = texts (lines.take place) + 1 := by
  induction k generalizing passed reader with
  | zero =>
      obtain ⟨result, skipped, last, later, step, keeps, none_tells, tells, _, blames⟩ :=
        nextOfLines_passed h
      rw [answer_zero_of_step step] at answered
      obtain ⟨counted, line, rfl, told⟩ := blames number fault answered
      have split : lines = passed ++ skipped ++ line :: later.rest := by simpa using keeps.split
      have place := tellsAt_of_append (passed ++ skipped) later.rest (tells line rfl)
      rw [← split, telling_append, none_tells, List.append_nil] at place
      refine ⟨_, line, place, told, ?_⟩
      rw [counted, keeps.counted, texts_append, Option.toList_some,
        texts_of_isText (isText_of_lineTells told), split, List.take_left]
  | succ k ih =>
      obtain ⟨result, skipped, last, later, step, keeps, none_tells, tells, ended, _⟩ :=
        nextOfLines_passed h
      rw [answer_succ_of_step step] at answered
      obtain ⟨place, line, at_place, told, counted⟩ := ih keeps answered
      rw [telling_append, telling_append, none_tells, List.append_nil] at at_place
      cases last with
      | none =>
          -- no line is left, so no later call can find one
          have nothing : telling [] = [] := rfl
          have whole : telling lines = telling passed := by
            rw [keeps.split, ended rfl, telling_append, telling_append, telling_append,
              none_tells, Option.toList_none, nothing, List.append_nil, List.append_nil,
              List.append_nil]
          have beyond := at_place.earlier_lt
          rw [Option.toList_none, nothing, List.append_nil, whole] at beyond
          omega
      | some found =>
          have one : telling [found] = [found] := telling_cons (tells found rfl) []
          rw [Option.toList_some, one, List.length_append, List.length_singleton, Nat.add_assoc,
            Nat.add_comm 1] at at_place
          exact ⟨place, line, at_place, told, counted⟩

/-! ## Opening -/

/-- The head is found behind skipped lines, which are all texts. -/
lemma number_of_malformed_head
    (stopped : openLines lines = .error (.malformed number fault)) :
    ∃ place line, TellsAt lines 0 place line ∧
      HeadTells (some line) (.error (.malformed number fault)) ∧ number = place + 1 := by
  obtain ⟨found, skipped, last, rest, split, step, all, tells, _, finds⟩ := next_passes 0 lines
  rw [openLines, step] at stopped
  cases finds with
  | done => simp at stopped
  | unreadable noText => simp at stopped
  | @data cs =>
      simp only [readCount] at stopped
      cases read : Text.readNatural (Text.trim cs) with
      | ok n => simp [read, Except.map] at stopped
      | error fault' =>
          obtain ⟨counted, rfl⟩ : _ = number ∧ _ = fault := by
            simpa [read, Except.map] using stopped
          have texts_skipped : texts skipped = skipped.length :=
            texts_eq_length_iff.2 fun line member => (all line member).isText
          have place := tellsAt_of_append skipped rest (tells _ rfl)
          rw [telling_of_skipped all] at place
          refine ⟨skipped.length, Utf8.encode cs, ?_, .bad read fun n natural => ?_, ?_⟩
          · simpa [split] using place
          · rw [Text.readNatural_eq_ok_iff.2 natural] at read
            cases read
          · rw [← counted, texts_append, texts_of_isText ⟨cs, rfl⟩, texts_skipped]

/-- Behind its head, a reader has passed over one telling line. -/
lemma passed_of_openLines {trace : TraceReader} (opened : openLines lines = .ok trace) :
    ∃ passed reader, trace = ⟨trace.declared, .ascii reader⟩ ∧ Passed lines passed reader ∧
      (telling passed).length = 1 := by
  obtain ⟨found, skipped, last, rest, split, step, all, tells, _, finds⟩ := next_passes 0 lines
  rw [openLines, step] at opened
  cases finds with
  | done => simp at opened
  | unreadable noText => simp at opened
  | @data cs =>
      simp only [readCount] at opened
      cases read : Text.readNatural (Text.trim cs) with
      | ok n =>
          rw [read] at opened
          obtain rfl := Except.ok.inj opened
          refine ⟨skipped ++ [Utf8.encode cs], _, rfl, ⟨split, Nat.zero_add _⟩, ?_⟩
          rw [telling_append, telling_of_skipped all, telling_cons (tells _ rfl)]
          rfl
      | error fault => simp [read, Except.map] at opened

/-! ## Whole traces -/

/-- **A malformed line is named by its place among the texts.**  The head of a trace is named by
its place in the trace.  A later line is named by one more than the number of texts before it:
by its place exactly if all lines before it are texts, and so always in a trace that is a text. -/
theorem malformed_numbers (bytes : List UInt8) :
    ∃ lines, CutInto bytes lines ∧
      (∀ number fault, ofBytes .ascii bytes = .error (.malformed number fault) →
        ∃ place line, TellsAt lines 0 place line ∧
          HeadTells (some line) (.error (.malformed number fault)) ∧ number = place + 1) ∧
      ∀ trace, ofBytes .ascii bytes = .ok trace → ∀ k number fault,
        answer trace k = .error (.malformed number fault) →
          ∃ place line, TellsAt lines (k + 1) place line ∧
            LineTells (some line) (.error (.malformed number fault)) ∧
            number = texts (lines.take place) + 1 ∧
            (number = place + 1 ↔ ∀ other ∈ lines.take place, IsText other) ∧
            (IsText bytes → number = place + 1) := by
  refine ⟨linesOfBytes bytes, cutInto_iff.2 rfl, fun number fault => number_of_malformed_head, ?_⟩
  intro trace opened k number fault answered
  obtain ⟨passed, reader, same, behind, one⟩ := passed_of_openLines opened
  rw [same] at answered
  obtain ⟨place, line, at_place, told, counted⟩ := number_of_malformed behind answered
  rw [one, Nat.add_comm] at at_place
  have exact_iff : number = place + 1 ↔
      ∀ other ∈ (linesOfBytes bytes).take place, IsText other := by
    rw [← at_place.texts_eq_iff, counted, Nat.add_right_cancel_iff]
  refine ⟨place, line, at_place, told, counted, exact_iff, ?_⟩
  rintro ⟨cs, rfl⟩
  exact exact_iff.2 fun other member =>
    isText_of_mem_linesOfBytes cs other (List.mem_of_mem_take member)

/-- A number, a byte that is no text, and a line that is no record: the record stands on the third
line and is blamed as the second. -/
theorem malformed_numbers_behind_noise :
    let bytes : List UInt8 := [48, 10, 255, 10, 120, 10]
    ∃ trace, ofBytes .ascii bytes = .ok trace ∧
      answer trace 1 = .error (.malformed 2 (.fieldCount 1)) ∧
      ∃ lines place line, CutInto bytes lines ∧ TellsAt lines 2 place line ∧
        2 = texts (lines.take place) + 1 ∧
        (2 = place + 1 ↔ ∀ other ∈ lines.take place, IsText other) := by
  intro bytes
  obtain ⟨lines, cut, _, calls⟩ := malformed_numbers bytes
  obtain ⟨trace, opened, answered⟩ : ∃ trace, ofBytes .ascii bytes = .ok trace ∧
      answer trace 1 = .error (.malformed 2 (.fieldCount 1)) := ⟨_, rfl, by decide⟩
  obtain ⟨place, line, at_place, _, counted, exact_iff, _⟩ := calls trace opened 1 2 _ answered
  exact ⟨trace, opened, answered, lines, place, line, cut, at_place, counted, exact_iff⟩

/-- Not every number is the place of the line. -/
theorem number_not_always_place : ¬ ∀ bytes lines trace k number fault,
    CutInto bytes lines → ofBytes .ascii bytes = .ok trace →
      answer trace k = .error (.malformed number fault) →
        ∃ place line, TellsAt lines (k + 1) place line ∧ number = place + 1 := by
  intro always
  obtain ⟨trace, opened, answered⟩ : ∃ trace,
      ofBytes .ascii [48, 10, 255, 10, 120, 10] = .ok trace ∧
        answer trace 1 = .error (.malformed 2 (.fieldCount 1)) := ⟨_, rfl, by decide⟩
  obtain ⟨place, line, at_place, same⟩ :=
    always _ [[48], [255], [120]] trace 1 2 _ (cutInto_iff.2 (by decide)) opened answered
  obtain rfl : place = 1 := by omega
  exact absurd at_place.before (by decide)

end TraceReader
end Concordance
