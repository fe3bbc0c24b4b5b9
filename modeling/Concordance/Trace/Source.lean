import Concordance.Files.Store
import Concordance.Point
import Concordance.Text.Integer
import Concordance.Text.Quoted

/-!
# Sources of sampled points

A `PointSource` yields sampled points one by one, and may fail instead.  It may announce how
many points it holds.  Sources are finite: every point that is yielded leaves less to come,
which `remaining_next` says and which is why a run over a source ends.

* `TraceFault` lists what can go wrong while a trace is read.
* `MemoryTrace` is a source whose points are at hand; it never fails.
* Either of two kinds of sources is a source again.
-/

namespace Concordance

/-- What is wrong with a line of a text trace. -/
inductive RecordFault where
  /-- The number of points is no natural number. -/
  | badCount (text : List Char) (fault : IntegerFault)
  /-- There are not six fields. -/
  | fieldCount (found : Nat)
  /-- A field, counted from one, is no integer. -/
  | badInteger (field : Nat) (text : List Char) (fault : IntegerFault)
  /-- A field, counted from one, is no number. -/
  | badFloat (field : Nat) (text : List Char)
  deriving DecidableEq, Repr

/-- What can go wrong while a trace is read. -/
inductive TraceFault where
  | file (fault : FileFault)
  | badMagic (found : List UInt8)
  | unsupportedVersion (version : Nat)
  | missingHeader
  /-- A line, counted from one, is malformed. -/
  | malformed (line : Nat) (fault : RecordFault)
  | truncated (read expected : Nat)
  deriving DecidableEq, Repr

/-- The place of a field in messages: its number and its text. -/
def fieldText (field : Nat) (text : List Char) : String :=
  "field " ++ toString field ++ " (" ++ String.ofList (Text.quoted text) ++ ")"

/-- The wording of a fault. -/
def RecordFault.message : RecordFault → String
  | badCount text fault =>
    "bad point count " ++ String.ofList (Text.quoted text) ++ ": " ++ fault.message
  | fieldCount found => "expected 6 fields, found " ++ toString found
  | badInteger field text fault => fieldText field text ++ ": " ++ fault.message
  | badFloat field text => fieldText field text ++ ": invalid float literal"

/-- The wording of a fault. -/
def TraceFault.message : TraceFault → String
  | file fault => "trace I/O error: " ++ fault.message
  | badMagic found =>
    "not a binary trace (bad magic [" ++
      String.intercalate ", " (found.map fun b => toString b.toNat) ++ "])"
  | unsupportedVersion version => "unsupported binary trace version " ++ toString version
  | missingHeader => "trace header has no declared point count"
  | malformed line fault =>
    "malformed trace record at line " ++ toString line ++ ": " ++ fault.message
  | truncated read expected =>
    "truncated binary record: " ++ toString read ++ " of " ++ toString expected ++ " bytes"

/-- A finite stream of sampled points. -/
class PointSource (σ : Type) where
  /-- The number of points that the source announces, if it announces one. -/
  declared : σ → Option Nat
  /-- The next point, or nothing at the end, and the source behind it. -/
  next : σ → Except TraceFault (Option SampledPoint) × σ
  /-- A bound on the points still to come. -/
  remaining : σ → Nat
  remaining_next : ∀ {s s' : σ} {p : SampledPoint},
    next s = (.ok (some p), s') → remaining s' < remaining s

/-- Points at hand, and the number announced for them. -/
structure MemoryTrace where
  points : List SampledPoint
  declared : Option Nat
  deriving DecidableEq, Repr

/-- The trace of a list of points, which announces their number. -/
def MemoryTrace.ofPoints (points : List SampledPoint) : MemoryTrace :=
  ⟨points, some points.length⟩

instance : PointSource MemoryTrace where
  declared := MemoryTrace.declared
  next trace := match trace.points with
    | [] => (.ok none, trace)
    | p :: rest => (.ok (some p), { trace with points := rest })
  remaining trace := trace.points.length
  remaining_next {s s' p} h := by
    obtain ⟨points, declared⟩ := s
    cases points with
    | nil => simp at h
    | cons q rest => simp only [Prod.mk.injEq] at h; simp [← h.2]

instance {σ τ : Type} [PointSource σ] [PointSource τ] : PointSource (σ ⊕ τ) where
  declared
    | .inl s => PointSource.declared s
    | .inr t => PointSource.declared t
  next
    | .inl s => ((PointSource.next s).1, .inl (PointSource.next s).2)
    | .inr t => ((PointSource.next t).1, .inr (PointSource.next t).2)
  remaining
    | .inl s => PointSource.remaining s
    | .inr t => PointSource.remaining t
  remaining_next {s s' p} h := by
    cases s <;> simp only [Prod.mk.injEq] at h <;> obtain ⟨h, rfl⟩ := h <;>
      exact PointSource.remaining_next (Prod.ext h rfl)

end Concordance
