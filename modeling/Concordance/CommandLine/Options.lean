import Concordance.Comparison.Config
import Concordance.Log
import Concordance.Trace.Reader

/-!
# Options of a comparison

What a command line asks for, and the configuration that follows from it.  A number of points
or a tolerance that is not positive is set aside, and the log says so.
-/

namespace Concordance

/-- What a command line asks for. -/
structure Options where
  /-- The path of the scene. -/
  model : List Char
  /-- The path of the trace. -/
  trace : List Char
  /-- How often more output was asked for. -/
  verbose : Nat
  /-- The number of points to compare, if it is given. -/
  npoints : Option Int64
  /-- The tolerance, if it is given. -/
  delta : Option Binary64
  /-- Whether material associations are to be guessed. -/
  guess : Bool
  encoding : Encoding
  /-- The base name of the files for visualization. -/
  output : List Char
  /-- Whether points outside the model are counted. -/
  tallyOutside : Bool
  deriving DecidableEq, Repr

namespace Options

/-- The base name of the files for visualization when none is given. -/
def defaultOutput : List Char := "outputViz.txt".toList

/-- The two input paths in order. -/
def inputs (o : Options) : List (List Char) := [o.model, o.trace]

/-- The point budget: a positive number of points. -/
def budget (o : Options) : Option Nat :=
  o.npoints.bind fun n => if n.toInt ≤ 0 then none else some n.toInt.toNat

/-- The tolerance: a positive number, or the default. -/
def surfaceDelta (o : Options) : Binary64 :=
  match o.delta with
  | some d => if Binary64.lt .zero d then d else defaultDelta
  | none => defaultDelta

/-- The parameters of the comparison. -/
def config (o : Options) : Config where
  delta := o.surfaceDelta
  budget := o.budget
  outside := if o.tallyOutside then .tally else .abort

/-- The warning about a tolerance that is not positive. -/
def deltaEvents (o : Options) : List Event :=
  match o.delta with
  | some d =>
    if Binary64.lt .zero d then []
    else
      [⟨.warn, "delta <= 0, using delta = " ++ String.ofList defaultDelta.scientificText,
        [("delta", Event.floatField d)]⟩]
  | none => []

/-- The warning about a number of points that is not positive. -/
def budgetEvents (o : Options) : List Event :=
  match o.npoints with
  | some n =>
    if n.toInt ≤ 0 then [⟨.warn, "npoints <= 0, ignored", [("npoints", toString n.toInt)]⟩] else []
  | none => []

/-- What settling the parameters leaves in the log. -/
def configEvents (o : Options) : List Event := o.deltaEvents ++ o.budgetEvents

/-- The detail of the log that is asked for. -/
def logLevel (o : Options) : Level :=
  match o.verbose with
  | 0 => .info
  | 1 => .debug
  | _ => .trace

end Options
end Concordance
