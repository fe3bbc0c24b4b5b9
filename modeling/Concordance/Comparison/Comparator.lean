import Concordance.Comparison.Config
import Concordance.Comparison.Equivalences
import Concordance.Comparison.Statistics
import Concordance.Geometry.Scripted
import Concordance.Log
import Concordance.Trace.Source

/-!
# Comparing sampled points with a model

Each point is resolved to a region, the region is named, and the key of the point is checked
against the learned equivalences.  A mismatch close to the surface of the region is ignored;
any other one is a failure.

Comparing a point has two halves.  `judge` finds the `Verdict` and changes nothing, and
`record` writes the verdict down.  A fault arises in the first half only.

* `Comparator.classify` judges a point and records the verdict.
* `Comparator.run` takes points from a source, up to the planned number.
* `runComparison` is a whole comparison.
-/

namespace Concordance

/-- The outcome of comparing a point. -/
inductive Outcome where
  | success
  | failed
  /-- A mismatch closer than the tolerance to the surface. -/
  | ignored
  /-- No region contains the point, and the policy tolerates that. -/
  | outside
  deriving DecidableEq, Repr

/-- What can stop a comparison. -/
inductive ComparisonFault where
  | outsideGeometry (rank : Int64) (position : Position)
  | unnamedRegion (region : RegionId)
  | trace (fault : TraceFault)
  deriving DecidableEq, Repr

/-- The wording of a fault. -/
def ComparisonFault.message : ComparisonFault → String
  | outsideGeometry rank position =>
    "point " ++ String.ofList (Decimal.intText rank.toInt) ++ " at " ++
      String.ofList (Position.text position) ++ " is outside the declarative geometry"
  | unnamedRegion region => "region " ++ String.ofList region.text ++ " has no composition"
  | trace fault => fault.message

/-- What a point shows, and where. -/
inductive Verdict where
  /-- The point lies in no region. -/
  | outside
  /-- The key of the point is new, and its region has a composition. -/
  | firstSeen (region : RegionId) (composition : String)
  /-- The composition of the region is the one bound to the key. -/
  | agrees (region : RegionId)
  /-- It is another one, but the surface is closer than the tolerance. -/
  | nearSurface (region : RegionId) (distance : Binary64)
  /-- It is another one, and the surface is not that close. -/
  | mismatch (region : RegionId) (expected found : String) (distance : Binary64)
  deriving DecidableEq, Repr

/-- The outcome that a verdict counts as. -/
def Verdict.outcome : Verdict → Outcome
  | outside => .outside
  | firstSeen .. => .success
  | agrees _ => .success
  | nearSurface .. => .ignored
  | mismatch .. => .failed

/-- The region that a verdict is about. -/
def Verdict.region? : Verdict → Option RegionId
  | outside => none
  | firstSeen region _ => some region
  | agrees region => some region
  | nearSurface region _ => some region
  | mismatch region .. => some region

/-- What a verdict on a point leaves in the log. -/
def Verdict.events (p : SampledPoint) : Verdict → List Event
  | outside =>
    [⟨.debug, "point outside geometry tallied", [("rank", toString p.rank.toInt)]⟩]
  | firstSeen _ composition =>
    [⟨.debug, "new equivalence",
      [("key", String.ofList p.key.text), ("composition", Event.quotedField composition)]⟩]
  | agrees _ => []
  | nearSurface region distance =>
    [⟨.debug, "mismatch near surface ignored",
      [("rank", toString p.rank.toInt), ("region", String.ofList region.text),
        ("distance", Event.floatField distance)]⟩]
  | mismatch region expected found distance =>
    [⟨.debug, "composition mismatch",
      [("rank", toString p.rank.toInt), ("region", String.ofList region.text),
        ("key", String.ofList p.key.text), ("expected", expected),
        ("found", Event.quotedField found), ("distance", Event.floatField distance)]⟩]

/-- A comparison under way: what it asks, and what it has learned and counted. -/
structure Comparator where
  resolver : Resolver
  namer : Namer
  config : Config
  equivalences : Equivalences
  statistics : Statistics
  /-- The number of points compared so far. -/
  classified : Nat

namespace Comparator

/-- A comparison before its first point. -/
def initial (resolver : Resolver) (namer : Namer) (config : Config) : Comparator where
  resolver := resolver
  namer := namer
  config := config
  equivalences := .empty
  statistics := .initial resolver.regionCount
  classified := 0

/-! ## One point -/

/-- The verdict on a point in a region with a composition. -/
def judgeIn (c : Comparator) (p : SampledPoint) (region : RegionId) (composition : String) :
    Verdict :=
  match c.equivalences.sighting p.key composition with
  | .bound => .firstSeen region composition
  | .agrees => .agrees region
  | .conflicts expected =>
    let distance := c.namer.surfaceDistance p.position region
    if distance.lt c.config.delta then .nearSurface region distance
    else .mismatch region expected composition distance

/-- The verdict on a point. -/
def judge (c : Comparator) (p : SampledPoint) : Except ComparisonFault Verdict :=
  let region := c.resolver.regionAt p.position
  if region.isOutside then
    match c.config.outside with
    | .abort => .error (.outsideGeometry p.rank p.position)
    | .tally => .ok .outside
  else
    match c.namer.composition? region with
    | none => .error (.unnamedRegion region)
    | some composition => .ok (c.judgeIn p region composition)

/-- The equivalences after a verdict: a key seen for the first time is bound. -/
def learn (c : Comparator) (p : SampledPoint) : Verdict → Equivalences
  | .firstSeen _ composition => (c.equivalences.observe p.key composition).2
  | _ => c.equivalences

/-- The statistics with the outcome of a verdict counted. -/
def count (s : Statistics) : Outcome → Statistics
  | .success => { s with success := s.success + 1 }
  | .failed => { s with failure := s.failure + 1 }
  | .ignored => { s with ignored := s.ignored + 1 }
  | .outside => { s with outside := s.outside + 1 }

/-- The statistics with a verdict on a point noted, which is number `sequenceRank`. -/
def note (s : Statistics) (p : SampledPoint) (sequenceRank : Nat) : Verdict → Statistics
  | .outside => count s .outside
  | .firstSeen region _ => (count s .success).cover region
  | .agrees region => (count s .success).cover region
  | .nearSurface region _ => (count s .ignored).cover region
  | .mismatch region _ _ distance =>
    ((count s .failed).keepFailure (.of p region distance sequenceRank)).cover region

/-- Writes a verdict on a point down. -/
def record (c : Comparator) (p : SampledPoint) (verdict : Verdict) : Comparator :=
  { c with
    equivalences := c.learn p verdict
    statistics := note c.statistics p c.classified verdict
    classified := c.classified + 1 }

/-- Compares one point. -/
def classify (c : Comparator) (p : SampledPoint) : Except ComparisonFault Outcome × Comparator :=
  match c.judge p with
  | .error fault => (.error fault, c)
  | .ok verdict => (.ok verdict.outcome, c.record p verdict)

/-- What comparing a point leaves in the log. -/
def events (c : Comparator) (p : SampledPoint) : List Event :=
  match c.judge p with
  | .error _ => []
  | .ok verdict => verdict.events p

/-! ## A source of points -/

/-- What a run over a source comes to. -/
structure Run (σ : Type) where
  /-- The number of points taken, unless the run stopped at a fault. -/
  result : Except ComparisonFault Nat
  comparator : Comparator
  /-- The source behind the last point that was taken. -/
  source : σ
  /-- What the run leaves in the log. -/
  log : List Event

variable {σ : Type} [PointSource σ]

/-- Takes points from a source until it ends or the plan is fulfilled.  `taken` and `log` are
what happened before. -/
def consume (plan : Option Nat) (taken : Nat) (log : List Event) (c : Comparator) (source : σ) :
    Run σ :=
  if plan.all (taken < ·) then
    match h : PointSource.next source with
    | (.error fault, source') => ⟨.error (.trace fault), c, source', log⟩
    | (.ok none, source') => ⟨.ok taken, c, source', log⟩
    | (.ok (some p), source') =>
      have := PointSource.remaining_next h
      match c.classify p with
      | (.error fault, c') => ⟨.error fault, c', source', log ++ c.events p⟩
      | (.ok _, c') => consume plan (taken + 1) (log ++ c.events p) c' source'
  else ⟨.ok taken, c, source, log⟩
termination_by PointSource.remaining source
decreasing_by assumption

/-- The event before the first point of a run. -/
def startEvent (plan : Option Nat) (delta : Binary64) : Event :=
  ⟨.info, "starting comparison",
    [("planned", Event.optionField plan), ("delta", Event.floatField delta)]⟩

/-- The event behind the last point of a run. -/
def endEvent (taken : Nat) (s : Statistics) : Event :=
  ⟨.info, "comparison complete",
    [("taken", toString taken), ("success", toString s.success),
      ("failure", toString s.failure), ("ignored", toString s.ignored),
      ("outside", toString s.outside)]⟩

/-- Compares the points of a source, as many as are planned. -/
def run (c : Comparator) (source : σ) : Run σ :=
  let plan := c.config.planned (PointSource.declared source)
  let outcome := consume plan 0 [startEvent plan c.config.delta] c source
  match outcome.result with
  | .error _ => outcome
  | .ok taken =>
    { outcome with log := outcome.log ++ [endEvent taken outcome.comparator.statistics] }

end Comparator

/-- A whole comparison of a source with a model. -/
def runComparison {σ : Type} [PointSource σ] (resolver : Resolver) (namer : Namer) (config : Config)
    (source : σ) : Comparator.Run σ :=
  (Comparator.initial resolver namer config).run source

end Concordance
