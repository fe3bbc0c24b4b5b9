import Concordance.Decimal.Style
import Concordance.Identifier

/-!
# Equivalence keys

The trace tells materials apart by their identifier and their density.  A key holds both, the
density as a word, so that two keys are equal exactly when they agree bit for bit.  `of` folds
the negative zero onto zero; NaN words stay as they are.

Keys are ordered by material, and keys of one material by the word of the density, read as a
natural number (`rank_lt_iff`).
-/

namespace Concordance

/-- A material at a density. -/
structure EquivalenceKey where
  material : MaterialId
  density : Binary64
  deriving DecidableEq, Repr

namespace EquivalenceKey

/-- The key of a material at a density; both zeros are one density. -/
def of (material : MaterialId) (density : Binary64) : EquivalenceKey :=
  ⟨material, if density.isZero then .zero else density⟩

/-- The place of a key in the order of keys. -/
def rank (key : EquivalenceKey) : Nat :=
  wordRank key.material.value * UInt64.size + key.density.bits.toNat

/-- The material decides first, and the word of the density second. -/
theorem rank_lt_iff {a b : EquivalenceKey} :
    a.rank < b.rank ↔ a.material.value.toInt < b.material.value.toInt ∨
      a.material.value.toInt = b.material.value.toInt ∧
        a.density.bits.toNat < b.density.bits.toNat := by
  have := a.density.bits.toNat_lt
  have := b.density.bits.toNat_lt
  have := a.material.value.le_toInt
  have := b.material.value.le_toInt
  simp only [rank, wordRank, UInt64.size, Int64.toInt_minValue]
  omega

instance : Ranked EquivalenceKey where
  rank := rank
  rank_injective {a b} h := by
    have := a.density.bits.toNat_lt
    have := b.density.bits.toNat_lt
    have material : wordRank a.material.value = wordRank b.material.value := by
      simp only [rank, UInt64.size] at h; omega
    have density : a.density.bits.toNat = b.density.bits.toNat := by
      simp only [rank, UInt64.size] at h; omega
    obtain ⟨⟨_⟩, ⟨_⟩⟩ := a
    obtain ⟨⟨_⟩, ⟨_⟩⟩ := b
    simp only [EquivalenceKey.mk.injEq, MaterialId.mk.injEq, Binary64.mk.injEq]
    exact ⟨wordRank_injective material, UInt64.toNat_inj.1 density⟩

/-- How a key stands in messages. -/
def text (key : EquivalenceKey) : List Char :=
  "(material ".toList ++ key.material.text ++ ", density ".toList ++
    key.density.positionalText ++ [')']

end EquivalenceKey
end Concordance
