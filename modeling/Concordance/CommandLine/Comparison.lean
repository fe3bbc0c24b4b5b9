import Concordance.CommandLine.Options
import Concordance.Comparison.Comparator
import Concordance.Files.System
import Concordance.Scene.Document
import Concordance.Visualization.Export

/-!
# The comparison of two files

`runOptions` does what a command line asks for: it opens both inputs, reads the scene and the
head of the trace, announces the comparison, compares, writes the report and then the files for
visualization.  Each stage happens only if the ones before it succeeded; what was written before
a fault stays written.
-/

namespace Concordance

/-- What can go wrong when two files are compared. -/
inductive ProgramFault where
  /-- An input file cannot be opened. -/
  | unreadable (path : List Char)
  /-- The scene file cannot be read. -/
  | sceneFile (path : List Char) (fault : FileFault)
  | scene (fault : DocumentFault)
  | trace (fault : TraceFault)
  | comparison (fault : ComparisonFault)
  | export (fault : ExportFault)
  /-- The report cannot be written. -/
  | output (fault : FileFault)
  deriving DecidableEq, Repr

/-- The wording of a fault. -/
def ProgramFault.message : ProgramFault → String
  | unreadable path =>
    "'" ++ String.ofList path ++ "': unknown option or unreachable file."
  | sceneFile path fault =>
    "failed to read scene " ++ String.ofList path ++ ": " ++ fault.message
  | scene fault => fault.message
  | trace fault => fault.message
  | comparison fault => fault.message
  | «export» fault => fault.message
  | output fault => "failed to write report: " ++ fault.message

/-- What a comparison changes: files, the text it prints, and its log. -/
structure Surroundings (ω : Type) where
  files : ω
  sink : Sink
  log : List Event

/-- Adds events to the log. -/
def Surroundings.note {ω : Type} (s : Surroundings ω) (events : List Event) : Surroundings ω :=
  { s with log := s.log ++ events }

/-- The result of a comparison, and what is left behind. -/
abbrev Attempt (ω α : Type) := Except ProgramFault α × Surroundings ω

namespace Options

variable {ω : Type} [FileStore ω]

/-- The first input that cannot be opened. -/
def unreadableInput? (o : Options) (files : ω) : Option (List Char) :=
  o.inputs.find? fun path => match FileStore.openPath files path with
    | .ok _ => false
    | .error _ => true

/-- Reads and checks the scene. -/
def loadScene (o : Options) (files : ω) : Except ProgramFault Scene :=
  match FileStore.readText files o.model with
  | .error fault => .error (.sceneFile o.model fault)
  | .ok text => match Scene.ofDocument text with
    | .error fault => .error (.scene fault)
    | .ok scene => .ok scene

/-- Opens the trace. -/
def openTrace (o : Options) (files : ω) : Except ProgramFault TraceReader :=
  match FileStore.read files o.trace with
  | .error fault => .error (.trace (.file fault))
  | .ok bytes => match TraceReader.ofBytes o.encoding bytes with
    | .error fault => .error (.trace fault)
    | .ok trace => .ok trace

/-- The line before a comparison. -/
def announcement (plan : Option Nat) : List Char :=
  let number := match plan with
    | some n => Decimal.natText n
    | none => "all".toList
  "Starting comparison on ".toList ++ number ++ " points...\n".toList

/-- What is printed behind a comparison. -/
def closing (o : Options) (c : Comparator) : List Char :=
  c.statistics.report.text ++ if 0 < o.verbose then '\n' :: c.equivalences.table else []

/-- The warning about the option that has no effect. -/
def guessEvents (o : Options) : List Event :=
  if o.guess then
    [⟨.warn, "guessing material associations is not supported, -g ignored", []⟩]
  else []

/-- The event of a scene that was read. -/
def sceneEvent (scene : Scene) : Event :=
  ⟨.info, "scene loaded", [("regions", toString scene.regions.length)]⟩

/-- The event of a trace that was opened. -/
def traceEvent (trace : TraceReader) : Event :=
  ⟨.debug, "trace header read", [("declared", toString trace.declared)]⟩

/-- The events of files that were written. -/
def exportEvents (files : VisualizationFiles) : List Event :=
  [⟨.info, "visualization written", [("dataset", String.ofList files.dataset)]⟩,
    ⟨.info, "export complete", [("manifest", String.ofList files.manifest)]⟩]

/-! ## The stages, the last first -/

/-- Writes the files for visualization. -/
def exportStage (o : Options) (directory : List Char) (c : Comparator) (s : Surroundings ω) :
    Attempt ω Comparator :=
  match Visualization.save s.files c.statistics.failures o.output directory with
  | (.error fault, files) => (.error (.export fault), { s with files := files })
  | (.ok written, files) => (.ok c, { s with files := files }.note (exportEvents written))

/-- Prints the report. -/
def reportStage (o : Options) (directory : List Char) (c : Comparator) (s : Surroundings ω) :
    Attempt ω Comparator :=
  match s.sink.write (o.closing c) with
  | (.error fault, sink) => (.error (.output fault), { s with sink := sink })
  | (.ok (), sink) => o.exportStage directory c { s with sink := sink }

/-- Compares. -/
def comparisonStage (o : Options) (directory : List Char) (scene : Scene) (trace : TraceReader)
    (s : Surroundings ω) : Attempt ω Comparator :=
  let run := runComparison scene.resolver scene.namer o.config trace
  match run.result with
  | .error fault => (.error (.comparison fault), s.note run.log)
  | .ok _ => o.reportStage directory run.comparator (s.note run.log)

/-- Announces the comparison. -/
def announcementStage (o : Options) (directory : List Char) (scene : Scene)
    (trace : TraceReader) (s : Surroundings ω) : Attempt ω Comparator :=
  match s.sink.write (announcement (o.config.planned (some trace.declared))) with
  | (.error fault, sink) => (.error (.output fault), { s with sink := sink })
  | (.ok (), sink) => o.comparisonStage directory scene trace { s with sink := sink }

/-- Opens the trace. -/
def traceStage (o : Options) (directory : List Char) (scene : Scene) (s : Surroundings ω) :
    Attempt ω Comparator :=
  match o.openTrace s.files with
  | .error fault => (.error fault, s)
  | .ok trace => o.announcementStage directory scene trace (s.note [traceEvent trace])

/-- Reads the scene. -/
def sceneStage (o : Options) (directory : List Char) (s : Surroundings ω) : Attempt ω Comparator :=
  match o.loadScene s.files with
  | .error fault => (.error fault, s)
  | .ok scene => o.traceStage directory scene (s.note [sceneEvent scene])

end Options

/-- Compares the two files that a command line names, and writes the files for visualization to
a directory. -/
def runOptions {ω : Type} [FileStore ω] (o : Options) (directory : List Char) (files : ω)
    (sink : Sink) : Attempt ω Comparator :=
  match o.unreadableInput? files with
  | some path => (.error (.unreadable path), ⟨files, sink, []⟩)
  | none => o.sceneStage directory ⟨files, sink, o.guessEvents ++ o.configEvents⟩

end Concordance
