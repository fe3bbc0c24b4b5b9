import Concordance.Proofs.CommandLine.Stages

/-!
# What a comparison of two files leaves behind

A comparison goes through its stages in order, and each stage may be the last.  What is left
behind then is known from the stage alone: input faults leave nothing, a comparison that fails
leaves the announcement, and no file is touched before the whole report is printed.

* `runOptions_cases` divides all runs by whether both inputs were read.
* `runOptions_effects` puts the stages together.
-/

namespace Concordance

/-! ## Whole runs -/

/-- The faults that are found before anything is printed. -/
def ProgramFault.OnInput : ProgramFault → Prop
  | .unreadable _ => True
  | .sceneFile .. => True
  | .scene _ => True
  | .trace _ => True
  | _ => False

section

open Options Text

variable {ω : Type} [FileStore ω] {o : Options} {directory : List Char} {files : ω} {sink : Sink}
  {scene : Scene} {trace : TraceReader}

lemma Options.onInput_of_loadScene {fault : ProgramFault} (h : o.loadScene files = .error fault) :
    fault.OnInput ∧ ∀ path, fault ≠ .unreadable path := by
  unfold loadScene at h
  split at h
  · cases h
    exact ⟨trivial, fun _ => nofun⟩
  · split at h
    · cases h
      exact ⟨trivial, fun _ => nofun⟩
    · cases h

lemma Options.onInput_of_openTrace {fault : ProgramFault} (h : o.openTrace files = .error fault) :
    fault.OnInput ∧ ∀ path, fault ≠ .unreadable path := by
  unfold openTrace at h
  split at h
  · cases h
    exact ⟨trivial, fun _ => nofun⟩
  · split at h
    · cases h
      exact ⟨trivial, fun _ => nofun⟩
    · cases h

lemma runOptions_of_firstUnreadable {path : List Char} (h : FirstUnreadable o files path) :
    runOptions o directory files sink = (.error (.unreadable path), ⟨files, sink, []⟩) := by
  rcases unreadableInput?_cases o files with ⟨path', found, first⟩ | ⟨_, opened⟩
  · rw [runOptions, found, first.unique h]
  · exact absurd opened h.closed

lemma runOptions_of_opens (model : Opens files o.model) (trace : Opens files o.trace) :
    runOptions o directory files sink
      = o.sceneStage directory ⟨files, sink, o.guessEvents ++ o.configEvents⟩ := by
  rcases unreadableInput?_cases o files with ⟨path, _, first⟩ | ⟨found, _⟩
  · exact absurd ⟨model, trace⟩ first.closed
  · rw [runOptions, found]

/-- **A run ends at one of its inputs, or both are in order** and the comparison is announced. -/
theorem runOptions_cases (o : Options) (directory : List Char) (files : ω) (sink : Sink) :
    (∃ fault log, fault.OnInput ∧
      (∀ path, fault = .unreadable path → FirstUnreadable o files path) ∧
      runOptions o directory files sink = (.error fault, ⟨files, sink, log⟩)) ∨
    ∃ scene trace log, Loads o files scene trace ∧ runOptions o directory files sink
      = o.announcementStage directory scene trace ⟨files, sink, log⟩ := by
  rcases unreadableInput?_cases o files with ⟨path, _, first⟩ | ⟨_, model, opened⟩
  · refine .inl ⟨.unreadable path, [], trivial, ?_, runOptions_of_firstUnreadable first⟩
    rintro path' ⟨⟩
    exact first
  rw [runOptions_of_opens model opened, sceneStage]
  cases loaded : o.loadScene files with
  | error fault =>
      obtain ⟨early, other⟩ := onInput_of_loadScene loaded
      exact .inl ⟨fault, _, early, fun path same => absurd same (other path), rfl⟩
  | ok scene =>
      simp only [traceStage, Surroundings.note]
      cases read : o.openTrace files with
      | error fault =>
          obtain ⟨early, other⟩ := onInput_of_openTrace read
          exact .inl ⟨fault, _, early, fun path same => absurd same (other path), rfl⟩
      | ok trace => exact .inr ⟨scene, trace, _, ⟨loaded, read⟩, rfl⟩

/-- Inputs that are in order are announced. -/
lemma runOptions_of_loads (directory : List Char) (sink : Sink)
    (h : Loads o files scene trace) : ∃ log,
    runOptions o directory files sink
      = o.announcementStage directory scene trace ⟨files, sink, log⟩ := by
  have model := opens_of_loadScene h.scene
  have opened := opens_of_openTrace h.trace
  refine ⟨o.guessEvents ++ o.configEvents ++ [sceneEvent scene] ++ [traceEvent trace], ?_⟩
  rw [runOptions_of_opens model opened, sceneStage, h.scene]
  simp only [traceStage, Surroundings.note, h.trace]

/-- What a run leaves behind that compares a scene and a trace with success, if everything can be
printed: a report whose number of points is that of the announcement or that of the trace, and
then whatever becomes of the files for visualization. -/
structure Completes (o : Options) (directory : List Char) (files : ω) (sink : Sink)
    (scene : Scene) (trace : TraceReader) (attempt : Attempt ω Comparator) : Prop where
  printed : attempt.2.sink.written = sink.written ++ (ofLines [announcedLine (o.plan trace)] ++
    (o.comparison scene trace).comparator.statistics.report.text ++
      if 0 < o.verbose then '\n' :: (o.comparison scene trace).comparator.equivalences.table
      else [])
  /-- Report and table are printed with all their lines. -/
  lines : attempt.2.sink.written = sink.written ++ ofLines (o.printedLines scene trace)
  /-- The files are written last, on the files as they were and with everything printed. -/
  exported : ∃ s : Surroundings ω, s.files = files ∧ s.sink = attempt.2.sink ∧
    attempt = o.exportStage directory (o.comparison scene trace).comparator s
  files : attempt.2.files = (Visualization.save files
    (o.comparison scene trace).comparator.statistics.failures o.output directory).2
  result : attempt.1 = .ok (o.comparison scene trace).comparator ∨
    ∃ fault, attempt.1 = .error (.export fault)
  sampled : (o.comparison scene trace).comparator.statistics.report.sampled ≤ o.plan trace
  sampled_eq : (o.comparison scene trace).comparator.statistics.report.sampled = o.plan trace ↔
    o.plan trace ≤ trace.records

/-- What a run leaves behind, by the stage that it ends in. -/
structure Effects (o : Options) (directory : List Char) (files : ω) (sink : Sink)
    (attempt : Attempt ω Comparator) : Prop where
  unreadable : ∀ path, attempt.1 = .error (.unreadable path) ↔ FirstUnreadable o files path
  badScene : Opens files o.model → Opens files o.trace → ∀ fault,
    o.loadScene files = .error fault → attempt.1 = .error fault
  badTrace : Opens files o.trace → ∀ scene fault, o.loadScene files = .ok scene →
    o.openTrace files = .error fault → attempt.1 = .error fault
  /-- Input faults are found before anything is printed or written. -/
  onInput : ∀ fault, attempt.1 = .error fault → fault.OnInput →
    attempt.2.files = files ∧ attempt.2.sink = sink
  /-- A comparison that fails leaves the announcement behind. -/
  failed : ∀ scene trace fault, Loads o files scene trace →
    sink.Accepts (ofLines [announcedLine (o.plan trace)]) →
    (o.comparison scene trace).result = .error fault →
    attempt.1 = .error (.comparison fault) ∧ attempt.2.files = files ∧
      attempt.2.sink.written = sink.written ++ ofLines [announcedLine (o.plan trace)]
  /-- An output that does not accept everything ends the run. -/
  refused : ∀ scene trace, Loads o files scene trace →
    (¬ sink.Accepts (ofLines [announcedLine (o.plan trace)]) ∨
      (∃ taken, (o.comparison scene trace).result = .ok taken) ∧
        ¬ sink.Accepts (ofLines (o.printedLines scene trace))) →
    attempt.1 = .error (.output sink.fault)
  /-- No fault but one of the files themselves leaves a file changed. -/
  untouched : ∀ fault, attempt.1 = .error fault → (∀ cause, fault ≠ .export cause) →
    attempt.2.files = files
  completed : ∀ scene trace taken, Loads o files scene trace →
    (o.comparison scene trace).result = .ok taken →
    sink.Accepts (ofLines (o.printedLines scene trace)) →
    Completes o directory files sink scene trace attempt

/-- A run whose inputs are in order and whose output accepts the announcement. -/
lemma runOptions_of_announced (directory : List Char) (loads : Loads o files scene trace)
    (accepted : sink.Accepts (ofLines [announcedLine (o.plan trace)])) : ∃ left log,
    left.written = sink.written ++ ofLines [announcedLine (o.plan trace)] ∧
    left.fault = sink.fault ∧
    (∀ more, left.Accepts more ↔ sink.Accepts (ofLines [announcedLine (o.plan trace)] ++ more)) ∧
    ((∃ fault, (o.comparison scene trace).result = .error fault ∧
        runOptions o directory files sink = (.error (.comparison fault), ⟨files, left, log⟩)) ∨
      (∃ taken, (o.comparison scene trace).result = .ok taken) ∧
        runOptions o directory files sink = o.reportStage directory
          (o.comparison scene trace).comparator ⟨files, left, log⟩) := by
  obtain ⟨log, same⟩ := runOptions_of_loads directory sink loads
  rcases o.announcementStage_cases directory scene trace ⟨files, sink, log⟩ with
    ⟨refused, _⟩ | ⟨_, left, log, written, cause, later, outcome⟩
  · exact absurd accepted refused
  · rw [same]
    exact ⟨left, log, written, cause, later, outcome⟩

/-- Only the last stage changes a file. -/
lemma files_of_announcementStage {s : Surroundings ω} {fault : ProgramFault}
    (h : (o.announcementStage directory scene trace s).1 = .error fault)
    (other : ∀ cause, fault ≠ .export cause) :
    (o.announcementStage directory scene trace s).2.files = s.files := by
  rcases o.announcementStage_cases directory scene trace s with
    ⟨_, left, same⟩ | ⟨_, left, log, _, _, _, ⟨_, _, same⟩ | ⟨_, same⟩⟩
  · rw [same]
  · rw [same]
  · rw [same] at h ⊢
    rcases o.reportStage_cases directory (o.comparison scene trace).comparator
      ⟨s.files, left, log⟩ with ⟨_, _, same⟩ | ⟨_, _, same⟩
    · rw [same]
    · rw [same] at h
      rcases o.exportStage_result directory (o.comparison scene trace).comparator
        ⟨s.files, _, log⟩ with done | ⟨cause, failed⟩
      · cases done.symm.trans h
      · cases failed.symm.trans h
        exact absurd rfl (other cause)

/-- Behind the announcement no fault of an input is found. -/
lemma not_onInput_of_announcementStage {s : Surroundings ω} {fault : ProgramFault}
    (h : (o.announcementStage directory scene trace s).1 = .error fault) : ¬ fault.OnInput := by
  rcases o.announcementStage_cases directory scene trace s with
    ⟨_, left, same⟩ | ⟨_, left, log, _, _, _, ⟨_, _, same⟩ | ⟨_, same⟩⟩
  · rw [same] at h
    cases h
    exact id
  · rw [same] at h
    cases h
    exact id
  · rw [same] at h
    rcases o.reportStage_cases directory (o.comparison scene trace).comparator
      ⟨s.files, left, log⟩ with ⟨_, _, same⟩ | ⟨_, _, same⟩
    · rw [same] at h
      cases h
      exact id
    · rw [same] at h
      rcases o.exportStage_result directory (o.comparison scene trace).comparator
        ⟨s.files, _, log⟩ with done | ⟨cause, failed⟩
      · cases done.symm.trans h
      · cases failed.symm.trans h
        exact id

lemma completes_of_loads (loads : Loads o files scene trace) {taken : Nat}
    (done : (o.comparison scene trace).result = .ok taken)
    (accepted : sink.Accepts (ofLines (o.printedLines scene trace))) :
    Completes o directory files sink scene trace (runOptions o directory files sink) := by
  rw [printedLines_eq] at accepted
  obtain ⟨left, log, written, _, later, ⟨fault, failed, _⟩ | ⟨_, same⟩⟩ :=
    runOptions_of_announced directory loads accepted.left
  · cases done.symm.trans failed
  rcases o.reportStage_cases directory (o.comparison scene trace).comparator
    ⟨files, left, log⟩ with ⟨refused, _⟩ | ⟨final, printed, last⟩
  · exact absurd ((later _).2 accepted) refused
  obtain ⟨within, exact_iff⟩ := sampled_le_plan done
  have sink_left := o.exportStage_sink directory (o.comparison scene trace).comparator
    ⟨files, final, log⟩
  have output : final.written = sink.written ++ ofLines (o.printedLines scene trace) := by
    rw [printed, written, printedLines_eq, List.append_assoc]
  rw [same, last]
  refine ⟨?_, sink_left ▸ output, ⟨⟨files, final, log⟩, rfl, sink_left.symm, rfl⟩,
    o.exportStage_files _ _ _, o.exportStage_result _ _ _, within, exact_iff⟩
  rw [sink_left, output, printedLines_eq, closing, List.append_assoc]

lemma output_of_not_accepts (loads : Loads o files scene trace)
    (h : ¬ sink.Accepts (ofLines [announcedLine (o.plan trace)])) :
    (runOptions o directory files sink).1 = .error (.output sink.fault) := by
  obtain ⟨log, same⟩ := runOptions_of_loads directory sink loads
  rcases o.announcementStage_cases directory scene trace ⟨files, sink, log⟩ with
    ⟨_, left, refused⟩ | ⟨accepted, _⟩
  · rw [same, refused]
  · exact absurd accepted h

lemma output_of_not_accepts_closing (loads : Loads o files scene trace) {taken : Nat}
    (accepted : sink.Accepts (ofLines [announcedLine (o.plan trace)]))
    (done : (o.comparison scene trace).result = .ok taken)
    (h : ¬ sink.Accepts (ofLines (o.printedLines scene trace))) :
    (runOptions o directory files sink).1 = .error (.output sink.fault) := by
  obtain ⟨left, log, _, cause, later, ⟨_, failed, _⟩ | ⟨_, same⟩⟩ :=
    runOptions_of_announced directory loads accepted
  · cases done.symm.trans failed
  rw [printedLines_eq, ← later] at h
  obtain ⟨final, refused⟩ := Sink.write_of_not_accepts h
  rw [same, reportStage, refused]
  exact congrArg _ (congrArg _ cause)

/-- **What every run leaves behind.**  The first input that cannot be opened is named.  Faults of
the inputs leave output and files as they were, a comparison that fails leaves one line with the
planned number of points and no more, and no fault but one of the files for visualization leaves a
file changed.  If the comparison succeeds and everything can be printed, this line, the report and,
if more output is asked for, the learned equivalences are printed before the first of these files is
written. -/
theorem runOptions_effects (o : Options) (directory : List Char) (files : ω) (sink : Sink) :
    Effects o directory files sink (runOptions o directory files sink) where
  unreadable path := by
    constructor
    · intro h
      rcases runOptions_cases o directory files sink with
        ⟨_, _, _, first, same⟩ | ⟨_, _, _, _, same⟩
      · rw [same] at h
        exact first path (Except.error.inj h)
      · rw [same] at h
        exact absurd trivial (not_onInput_of_announcementStage h)
    · intro first
      rw [runOptions_of_firstUnreadable first]
  badScene model opened fault failed := by
    rw [runOptions_of_opens model opened, sceneStage, failed]
  badTrace opened scene fault loaded failed := by
    rw [runOptions_of_opens (opens_of_loadScene loaded) opened, sceneStage, loaded]
    simp only [traceStage, Surroundings.note, failed]
  onInput fault h early := by
    rcases runOptions_cases o directory files sink with ⟨_, _, _, _, same⟩ | ⟨_, _, _, _, same⟩
    · rw [same]
      exact ⟨rfl, rfl⟩
    · rw [same] at h
      exact absurd early (not_onInput_of_announcementStage h)
  failed scene trace fault loads accepted failed := by
    obtain ⟨left, log, written, _, _, ⟨_, result, same⟩ | ⟨⟨_, result⟩, _⟩⟩ :=
      runOptions_of_announced directory loads accepted
    · cases failed.symm.trans result
      rw [same]
      exact ⟨rfl, rfl, written⟩
    · cases failed.symm.trans result
  refused scene trace loads h := by
    by_cases accepted : sink.Accepts (ofLines [announcedLine (o.plan trace)])
    · rcases h with refused | ⟨⟨taken, done⟩, refused⟩
      · exact absurd accepted refused
      · exact output_of_not_accepts_closing loads accepted done refused
    · exact output_of_not_accepts loads accepted
  untouched fault h other := by
    rcases runOptions_cases o directory files sink with ⟨_, _, _, _, same⟩ | ⟨_, _, _, _, same⟩
    · rw [same]
    · rw [same] at h ⊢
      exact files_of_announcementStage h other
  completed scene trace taken loads done accepted := completes_of_loads loads done accepted

end

/-- Three points are announced and the trace holds two, one of them outside the model.  If such
points are counted, everything is printed on two points and the three files are written; if not,
the announcement is all there is. -/
theorem runOptions_effects_short :
    let ball := "\x7b\"regions\":[\x7b\"id\":1,\"composition\":\"lead\",\"shape\":".toList ++
      "\x7b\"kind\":\"sphere\",\"center\":[0,0,0],\"radius\":1\x7d\x7d]\x7d".toList
    let scene : Scene :=
      ⟨[⟨⟨1⟩, "lead", .sphere ⟨.zero, .zero, .zero⟩ (.ofInt 1)⟩], by decide +kernel⟩
    let trace : TraceReader :=
      ⟨3, .ascii ⟨["1 0 0 0 5 0", "", "2 8 0 0 5 0"].map fun line => Utf8.encode line.toList, 1⟩⟩
    let files := Journal.ofInputs [(['m'], .ok (.file (Utf8.encode ball))),
      (['t'], .ok (.file (Utf8.encode "3\n1 0 0 0 5 0\n\n2 8 0 0 5 0".toList)))]
    let o : Options := ⟨['m'], ['t'], 1, some 4, none, false, .ascii, "viz.txt".toList, true⟩
    let attempt := runOptions o ['.'] files .unbounded
    let strict : Options := { o with tallyOutside := false }
    let failure := runOptions strict ['.'] files .unbounded
    (o.Loads files scene trace ∧ (o.comparison scene trace).result = .ok 2 ∧
      Completes o ['.'] files .unbounded scene trace attempt ∧
      attempt.2.sink.written = Text.ofLines ["Starting comparison on 3 points...", "",
        "---------------------------", "Reporting on geometry comparison",
        "---------------------------", "Number of SAMPLED points : 2",
        "Number of SUCCESSFUL     : 1 -> 50.00%", "Number of FAILED         : 0 -> 0.00%",
        "Number of IGNORED        : 0 -> 0.00%", "Number of OUTSIDE        : 1 -> 50.00%",
        "Number of COVERED volumes: 1", "Number of INPUT   volumes: 1",
        "Average distance to surface for FAILED points: n/a",
        "Maximum distance to surface for FAILED points: n/a", "", "Learned equivalences (1):",
        "  material      5 @ density 0            -> lead"] ∧
      attempt.2.files.written.map (·.1) = ["./viz.failedpoints.dat".toList,
        "./viz.failedpoints.general".toList, "./viz.points".toList] ∧
      (o.comparison scene trace).comparator.statistics.report.sampled < o.plan trace) ∧
    failure.1 = .error (.comparison (.outsideGeometry 2 ⟨.ofInt 8, .zero, .zero⟩)) ∧
      failure.2.files = files ∧
      failure.2.sink.written = Text.ofLines ["Starting comparison on 3 points..."] := by
  intro ball scene trace files o attempt strict failure
  have read : (o.loadScene files).toOption.map (·.regions) = some scene.regions := by
    decide +kernel
  have loaded : o.loadScene files = .ok scene := by
    cases result : o.loadScene files with
    | error fault =>
        rw [result] at read
        cases read
    | ok found =>
        rw [result] at read
        obtain ⟨regions, faultless⟩ := found
        obtain rfl : regions = scene.regions := Option.some.inj read
        rfl
  have opened : o.openTrace files = .ok trace := rfl
  have accepted : ∀ text, Sink.unbounded.Accepts text := fun text room => nofun
  have empty : Sink.unbounded.written = [] := rfl
  have effects : Effects o ['.'] files .unbounded attempt :=
    runOptions_effects o ['.'] files .unbounded
  have strict_effects : Effects strict ['.'] files .unbounded failure :=
    runOptions_effects strict ['.'] files .unbounded
  -- what was left behind is known from here on, so nothing below runs the stages again
  clear_value attempt failure
  constructor
  · have done : (o.comparison scene trace).result = .ok 2 := by decide +kernel
    have complete := effects.completed scene trace 2 ⟨loaded, opened⟩ done (accepted _)
    have report : (o.comparison scene trace).comparator.statistics.report
        = ⟨2, 1, 0, 0, 1, 1, 1, none, none⟩ := by decide +kernel
    have learned : (o.comparison scene trace).comparator.equivalences.entries
        = [(.of ⟨5⟩ .zero, "lead")] := by decide +kernel
    have kept : (o.comparison scene trace).comparator.statistics.failures = [] := by decide +kernel
    have short : ¬ o.plan trace ≤ trace.records := by decide +kernel
    refine ⟨⟨loaded, opened⟩, done, complete, ?_, ?_, ?_⟩
    · rw [complete.lines, empty, List.nil_append]
      refine congrArg Text.ofLines ?_
      rw [Options.printedLines, Options.closingLines, report, OrderedMap.size, learned]
      decide +kernel
    · rw [complete.files, kept]
      decide +kernel
    · exact Nat.lt_of_le_of_ne complete.sampled fun whole => short (complete.sampled_eq.1 whole)
  · have outside : (strict.comparison scene trace).result
        = .error (.outsideGeometry 2 ⟨.ofInt 8, .zero, .zero⟩) := by decide +kernel
    have loads : strict.Loads files scene trace := by
      refine ⟨?_, rfl⟩
      rw [← loaded, Options.loadScene, Options.loadScene]
    obtain ⟨result, untouched, printed⟩ := strict_effects.failed scene trace _ loads (accepted _)
      outside
    have plan : strict.plan trace = 3 := by decide +kernel
    refine ⟨result, untouched, ?_⟩
    rw [printed, empty, List.nil_append, plan]
    exact congrArg Text.ofLines (by decide +kernel)

end Concordance
