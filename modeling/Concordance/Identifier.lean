import Concordance.Decimal.Digits
import Concordance.OrderedMap

/-!
# Identifiers of regions and materials

Regions are named by the declarative model, materials by the trace.  A region identifier below
zero says that a position lies in no region.
-/

namespace Concordance

/-- A number of a signed word, from zero on in the order of the integers. -/
def wordRank (n : Int64) : Nat := (n.toInt - Int64.minValue.toInt).toNat

/-- The order of words is the order of the integers they stand for. -/
theorem wordRank_lt_iff {a b : Int64} : wordRank a < wordRank b ↔ a.toInt < b.toInt := by
  have := a.le_toInt
  have := b.le_toInt
  simp only [wordRank, Int64.toInt_minValue]
  omega

/-- Different words have different ranks. -/
theorem wordRank_injective {a b : Int64} (h : wordRank a = wordRank b) : a = b := by
  have := a.le_toInt
  have := b.le_toInt
  simp only [wordRank, Int64.toInt_minValue] at h
  exact Int64.toInt_inj.1 (by omega)

/-- The identifier of a region of the declarative model. -/
structure RegionId where
  value : Int64
  deriving DecidableEq, Repr

/-- The identifier of a material as the transport trace reports it. -/
structure MaterialId where
  value : Int64
  deriving DecidableEq, Repr

namespace RegionId

/-- What stands for the region of a position outside every region. -/
def outside : RegionId := ⟨-1⟩

/-- Whether the identifier says that there is no region. -/
def isOutside (id : RegionId) : Bool := decide (id.value.toInt < 0)

/-- The plain text of an identifier. -/
def text (id : RegionId) : List Char := Decimal.intText id.value.toInt

instance : Ranked RegionId where
  rank id := wordRank id.value
  rank_injective {a b} h := by
    cases a; cases b; simp only [RegionId.mk.injEq]; exact wordRank_injective h

end RegionId

/-- The plain text of an identifier. -/
def MaterialId.text (id : MaterialId) : List Char := Decimal.intText id.value.toInt

end Concordance
