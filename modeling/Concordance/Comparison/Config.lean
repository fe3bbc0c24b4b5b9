import Concordance.Decimal.Basic

/-!
# Parameters of a comparison
-/

namespace Concordance

/-- What becomes of a point outside every region. -/
inductive OutsidePolicy where
  /-- The comparison stops. -/
  | abort
  /-- The point is counted, and the comparison goes on. -/
  | tally
  deriving DecidableEq, Repr

/-- The tolerance when none is given. -/
def defaultDelta : Binary64 := Decimal.toBinary64 false ⟨1, -7⟩

/-- The parameters of a comparison. -/
structure Config where
  /-- Mismatches strictly closer than this to the surface of their region are ignored. -/
  delta : Binary64
  /-- The largest number of points to compare; without one the whole trace is compared. -/
  budget : Option Nat
  outside : OutsidePolicy
  deriving DecidableEq, Repr

namespace Config

/-- The parameters when none are given. -/
def standard : Config := ⟨defaultDelta, none, .abort⟩

/-- The number of points a comparison takes at most, given how many a source announces: the
smaller of budget and announcement, or the only one of them. -/
def planned (config : Config) (declared : Option Nat) : Option Nat :=
  match config.budget, declared with
  | some budget, some declared => some (Nat.min budget declared)
  | some n, none => some n
  | none, some n => some n
  | none, none => none

end Config
end Concordance
