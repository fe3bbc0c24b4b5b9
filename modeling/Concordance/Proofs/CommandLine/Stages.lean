import Concordance.CommandLine.Comparison
import Concordance.Files.Journal
import Concordance.Proofs.Comparison.Histories
import Concordance.Proofs.Comparison.Report
import Concordance.Proofs.Comparison.Table
import Concordance.Proofs.Trace.Records

/-!
# The stages of a comparison of two files

Each stage of the program is described by what it answers, what it prints and what it does to the
files, so that a whole run is put together without opening the stages again.

* `Sink.write_of_accepts` and `Sink.write_of_not_accepts` say what a stream does with a text.
* `Loads` says that both inputs were read, and `FirstUnreadable` which of them could not be opened.
* `plan`, `announcedLine` and `closingLines` say what is to be printed, line by line, and
  `announcement_eq` and `closing_eq` that the stages print it; `printedLines` is all of it.
* `reportStage_cases` and `exportStage_sink` follow the output through the last two stages: the
  files for visualization are written when nothing is left to print.
* `sampled_le_plan` ties the number in the announcement to the number in the report.
-/

namespace Concordance

/-! ## The output -/

namespace Sink

variable {sink : Sink} {text more : List Char}

/-- The stream has room for a text. -/
def Accepts (sink : Sink) (text : List Char) : Prop := ∀ room ∈ sink.room, text.length ≤ room

lemma write_of_accepts (h : sink.Accepts text) :
    ∃ left : Sink, sink.write text = (.ok (), left) ∧ left.written = sink.written ++ text ∧
      left.fault = sink.fault ∧ ∀ more, left.Accepts more ↔ sink.Accepts (text ++ more) := by
  obtain ⟨written, room, fault⟩ := sink
  cases room with
  | none => exact ⟨_, rfl, rfl, rfl, fun more => by simp [Accepts]⟩
  | some room =>
      have fits : text.length ≤ room := h room rfl
      refine ⟨_, if_pos fits, rfl, rfl, fun more => ?_⟩
      simp only [Accepts, Option.mem_some, forall_eq', List.length_append]
      omega

lemma write_of_not_accepts (h : ¬ sink.Accepts text) :
    ∃ left, sink.write text = (.error sink.fault, left) := by
  obtain ⟨written, room, fault⟩ := sink
  cases room with
  | none => exact absurd (fun room member => by cases member) h
  | some room =>
      have full : ¬ text.length ≤ room := by
        intro fits
        refine h ?_
        rintro left ⟨⟩
        exact fits
      exact ⟨_, if_neg full⟩

lemma Accepts.left (h : sink.Accepts (text ++ more)) : sink.Accepts text := by
  intro room member
  have whole := h room member
  rw [List.length_append] at whole
  omega

end Sink

namespace Options

open Text (ofLines)

variable {ω : Type} [FileStore ω] {o : Options} {directory path : List Char} {files : ω}
  {scene : Scene} {trace : TraceReader} {c : Comparator} {s : Surroundings ω}

/-! ## The inputs -/

/-- A path leads to something that can be opened. -/
def Opens (files : ω) (path : List Char) : Prop := ∃ node, FileStore.openPath files path = .ok node

/-- The first input that cannot be opened, the scene before the trace. -/
inductive FirstUnreadable (o : Options) (files : ω) : List Char → Prop
  | scene (closed : ¬ Opens files o.model) : FirstUnreadable o files o.model
  | trace (opened : Opens files o.model) (closed : ¬ Opens files o.trace) :
      FirstUnreadable o files o.trace

/-- Both inputs are read and found to be in order. -/
structure Loads (o : Options) (files : ω) (scene : Scene) (trace : TraceReader) : Prop where
  scene : o.loadScene files = .ok scene
  trace : o.openTrace files = .ok trace

lemma unreadableInput?_cases (o : Options) (files : ω) :
    (∃ path, o.unreadableInput? files = some path ∧ FirstUnreadable o files path) ∨
      o.unreadableInput? files = none ∧ Opens files o.model ∧ Opens files o.trace := by
  simp only [unreadableInput?, inputs, List.find?_cons, List.find?_nil]
  cases model : FileStore.openPath files o.model with
  | error fault =>
      refine .inl ⟨_, rfl, .scene ?_⟩
      rintro ⟨node, opened⟩
      cases model.symm.trans opened
  | ok node =>
      cases trace : FileStore.openPath files o.trace with
      | error fault =>
          refine .inl ⟨_, rfl, .trace ⟨node, model⟩ ?_⟩
          rintro ⟨node, opened⟩
          cases trace.symm.trans opened
      | ok other => exact .inr ⟨rfl, ⟨node, model⟩, ⟨other, trace⟩⟩

lemma FirstUnreadable.unique {path' : List Char} (h : FirstUnreadable o files path)
    (h' : FirstUnreadable o files path') : path = path' := by
  cases h with
  | scene closed =>
      cases h' with
      | scene _ => rfl
      | trace opened _ => exact absurd opened closed
  | trace opened closed =>
      cases h' with
      | scene closed' => exact absurd opened closed'
      | trace _ _ => rfl

lemma FirstUnreadable.closed (h : FirstUnreadable o files path) :
    ¬ (Opens files o.model ∧ Opens files o.trace) := by
  rintro ⟨model, trace⟩
  cases h with
  | scene closed => exact closed model
  | trace _ closed => exact closed trace

lemma opens_of_read {bytes : List UInt8} (h : FileStore.read files path = .ok bytes) :
    Opens files path := by
  unfold FileStore.read at h
  split at h
  · cases h
  · cases h
  · exact ⟨_, ‹_›⟩

lemma opens_of_loadScene (h : o.loadScene files = .ok scene) : Opens files o.model := by
  simp only [loadScene, FileStore.readText] at h
  cases read : FileStore.read files o.model with
  | error fault =>
      rw [read] at h
      cases h
  | ok bytes => exact opens_of_read read

lemma opens_of_openTrace (h : o.openTrace files = .ok trace) : Opens files o.trace := by
  simp only [openTrace] at h
  cases read : FileStore.read files o.trace with
  | error fault =>
      rw [read] at h
      cases h
  | ok bytes => exact opens_of_read read

/-! ## What is printed -/

/-- The number of points to compare: as many as are asked for, if that is a positive number, and no
more than the trace declares. -/
def plan (o : Options) (trace : TraceReader) : Nat :=
  match o.npoints with
  | some n => if 0 < n.toInt then Nat.min n.toInt.toNat trace.declared else trace.declared
  | none => trace.declared

lemma planned_eq (o : Options) (trace : TraceReader) :
    o.config.planned (some trace.declared) = some (o.plan trace) := by
  have same : o.config.budget = o.budget := rfl
  simp only [Config.planned, plan, same, budget]
  cases o.npoints with
  | none => rfl
  | some n =>
      by_cases positive : 0 < n.toInt
      · simp only [Option.bind_some, if_neg (Int.not_le.2 positive), if_pos positive]
      · simp only [Option.bind_some, if_pos (Int.not_lt.1 positive), if_neg positive]

/-- The line before a comparison, with the number of points. -/
def announcedLine (n : Nat) : String := "Starting comparison on " ++ toString n ++ " points..."

lemma announcement_eq (n : Nat) : announcement (some n) = ofLines [announcedLine n] := by
  have last : " points...\n".toList = " points...".toList ++ ['\n'] := by decide
  delta announcement ofLines announcedLine
  simp only [String.toList_append, Decimal.natText_eq_toString, last, List.flatMap_cons,
    List.flatMap_nil, List.append_assoc, List.append_nil]

/-- The lines behind a comparison: the report, and then, if more output is asked for, an empty line
and the learned equivalences. -/
def closingLines (o : Options) (c : Comparator) : List String :=
  c.statistics.report.lines ++ if 0 < o.verbose then
    "" :: (Equivalences.headingLine c.equivalences.size ::
      (c.equivalences.entries.map Equivalences.linesOf).flatten).map String.ofList
  else []

lemma closing_eq (o : Options) (c : Comparator) : o.closing c = ofLines (o.closingLines c) := by
  rw [closing, Report.text_eq_lines, closingLines]
  by_cases more : 0 < o.verbose
  · have table := (Equivalences.isTableOf_table c.equivalences).text_eq
    rw [if_pos more, if_pos more, table]
    simp only [ofLines, List.flatMap_append, List.flatMap_cons, List.flatMap_map, List.map_cons,
      String.toList_ofList]
    rfl
  · rw [if_neg more, if_neg more, List.append_nil, List.append_nil]

/-! ## The last stages -/

/-- The output is complete when the first file is written. -/
lemma exportStage_sink (o : Options) (directory : List Char) (c : Comparator)
    (s : Surroundings ω) : (o.exportStage directory c s).2.sink = s.sink := by
  rw [exportStage]
  split
  · rfl
  · rfl

lemma exportStage_files (o : Options) (directory : List Char) (c : Comparator)
    (s : Surroundings ω) : (o.exportStage directory c s).2.files
      = (Visualization.save s.files c.statistics.failures o.output directory).2 := by
  rw [exportStage]
  split
  · rename_i saved
    rw [saved]
  · rename_i saved
    rw [saved]
    rfl

lemma exportStage_result (o : Options) (directory : List Char) (c : Comparator)
    (s : Surroundings ω) : (o.exportStage directory c s).1 = .ok c ∨
      ∃ fault, (o.exportStage directory c s).1 = .error (.export fault) := by
  rw [exportStage]
  split
  · exact .inr ⟨_, rfl⟩
  · exact .inl rfl

/-- The report is printed as a whole and the files follow, or no file is touched. -/
lemma reportStage_cases (o : Options) (directory : List Char) (c : Comparator)
    (s : Surroundings ω) :
    (¬ s.sink.Accepts (o.closing c) ∧ ∃ left,
      o.reportStage directory c s = (.error (.output s.sink.fault), { s with sink := left })) ∨
    ∃ left, left.written = s.sink.written ++ o.closing c ∧
      o.reportStage directory c s = o.exportStage directory c { s with sink := left } := by
  by_cases accepted : s.sink.Accepts (o.closing c)
  · obtain ⟨left, printed, written, _, _⟩ := Sink.write_of_accepts accepted
    exact .inr ⟨left, written, by rw [reportStage, printed]⟩
  · obtain ⟨left, refused⟩ := Sink.write_of_not_accepts accepted
    exact .inl ⟨accepted, left, by rw [reportStage, refused]⟩

/-! ## The comparison -/

/-- The comparison of a scene and a trace that were read. -/
abbrev comparison (o : Options) (scene : Scene) (trace : TraceReader) :
    Comparator.Run TraceReader :=
  runComparison scene.resolver scene.namer o.config trace

/-- All lines that are printed for a comparison that succeeds. -/
def printedLines (o : Options) (scene : Scene) (trace : TraceReader) : List String :=
  announcedLine (o.plan trace) :: o.closingLines (o.comparison scene trace).comparator

lemma printedLines_eq (o : Options) (scene : Scene) (trace : TraceReader) :
    ofLines (o.printedLines scene trace) = ofLines [announcedLine (o.plan trace)] ++
      o.closing (o.comparison scene trace).comparator := by
  rw [closing_eq, printedLines, ofLines, List.flatMap_cons]
  simp only [ofLines, List.flatMap_cons, List.flatMap_nil, List.append_nil]

/-- **A comparison that succeeds samples the announced number of points**, unless the trace holds
fewer records. -/
theorem sampled_le_plan {taken : Nat} (done : (o.comparison scene trace).result = .ok taken) :
    (o.comparison scene trace).comparator.statistics.report.sampled ≤ o.plan trace ∧
      ((o.comparison scene trace).comparator.statistics.report.sampled = o.plan trace ↔
        o.plan trace ≤ trace.records) := by
  obtain ⟨takes, same⟩ := Comparator.run_spec
    (Comparator.initial scene.resolver scene.namer o.config) trace
  have announced : (Comparator.initial scene.resolver scene.namer o.config).config.planned
      (PointSource.declared trace) = some (o.plan trace) := o.planned_eq trace
  have sampled : (o.comparison scene trace).comparator.statistics.report.sampled
      = ((Comparator.initial scene.resolver scene.namer o.config).intakeOf trace).length := by
    have coherent := Comparator.classifyAll_coherent
      (Comparator.initial_coherent scene.resolver scene.namer o.config)
      ((Comparator.initial scene.resolver scene.namer o.config).intakeOf trace)
    have counted := Comparator.classified_classifyAll takes.accepted
    rw [comparison, runComparison, same]
    exact coherent.counted.trans (counted.trans (Nat.zero_add _))
  generalize (Comparator.initial scene.resolver scene.namer o.config).intakeOf trace = points
    at takes sampled
  obtain ⟨planned, yielded, _, halts⟩ := takes
  rw [announced, Nat.zero_add] at halts
  rw [announced, Nat.zero_add] at planned
  have within := planned _ rfl
  have held := TraceReader.length_le_records yielded
  rw [sampled]
  refine ⟨within, fun fulfilled => fulfilled ▸ held, fun enough => ?_⟩
  rw [show (Comparator.run _ trace).result = .ok taken from done] at halts
  cases halts with
  | fulfilled full =>
      have reached : ¬ points.length < o.plan trace := by
        intro less
        refine full ?_
        rintro limit ⟨⟩
        exact less
      omega
  | exhausted _ last =>
      have ended := TraceReader.records_le_of_end last
      omega

/-- A comparison that was announced fails before anything else is printed, or its report is
printed next. -/
lemma announcementStage_cases (o : Options) (directory : List Char) (scene : Scene)
    (trace : TraceReader) (s : Surroundings ω) :
    (¬ s.sink.Accepts (ofLines [announcedLine (o.plan trace)]) ∧ ∃ left,
      o.announcementStage directory scene trace s
        = (.error (.output s.sink.fault), { s with sink := left })) ∨
    (s.sink.Accepts (ofLines [announcedLine (o.plan trace)]) ∧ ∃ left log,
      left.written = s.sink.written ++ ofLines [announcedLine (o.plan trace)] ∧
      left.fault = s.sink.fault ∧
      (∀ more, left.Accepts more ↔
        s.sink.Accepts (ofLines [announcedLine (o.plan trace)] ++ more)) ∧
      ((∃ fault, (o.comparison scene trace).result = .error fault ∧
          o.announcementStage directory scene trace s
            = (.error (.comparison fault), ⟨s.files, left, log⟩)) ∨
        (∃ taken, (o.comparison scene trace).result = .ok taken) ∧
          o.announcementStage directory scene trace s
            = o.reportStage directory (o.comparison scene trace).comparator
              ⟨s.files, left, log⟩)) := by
  by_cases accepted : s.sink.Accepts (ofLines [announcedLine (o.plan trace)])
  · obtain ⟨left, printed, written, cause, later⟩ := Sink.write_of_accepts accepted
    refine .inr ⟨accepted, left, s.log ++ (o.comparison scene trace).log, written, cause, later, ?_⟩
    simp only [announcementStage, planned_eq, announcement_eq, printed, comparisonStage]
    cases result : (o.comparison scene trace).result with
    | error fault => exact .inl ⟨fault, rfl, rfl⟩
    | ok taken => exact .inr ⟨⟨taken, rfl⟩, rfl⟩
  · obtain ⟨left, refused⟩ := Sink.write_of_not_accepts accepted
    refine .inl ⟨accepted, left, ?_⟩
    simp only [announcementStage, planned_eq, announcement_eq, refused]

end Options

end Concordance
