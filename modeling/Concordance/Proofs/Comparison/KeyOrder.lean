import Concordance.Proofs.Binary64.Numbers
import Concordance.Proofs.Comparison.CanonicalKeys
import Concordance.Proofs.Comparison.Survey

/-!
# The order of keys is the order of densities

A key holds its density as a word, and keys of one material are ordered by that word as a natural
number.  That is not the order of doubles: below zero it is reversed, and the words with a sign
stand behind all others, those that are no numbers among them.  From zero on the word is the
magnitude, and the negative zero, the one word with a sign there, is folded away before it gets
into a key.

* `of_eq_of_iff_bits` and `of_eq_of_iff_eq` say when two keys are one.
* `rank_of_lt_iff` is the order of two keys, in the comparison of doubles.
* `listedByDensity_of_made` carries it over to the listing of a map, whose entries ascend.  The
  keys in the map of a comparison are those of its points (`Reachable.exists_point`), so they are
  all made.
* `order_of_densities` states this for the numbers that the densities stand for.
-/

namespace Concordance

namespace EquivalenceKey

variable {m₁ m₂ : MaterialId} {d₁ d₂ : Binary64}

/-! ## Two keys -/

/-- Two keys that are made are one if they are made of one material and one word, or of zeros. -/
theorem of_eq_of_iff_bits :
    of m₁ d₁ = of m₂ d₂ ↔
      m₁ = m₂ ∧ (d₁.bits = d₂.bits ∨ d₁.isZero = true ∧ d₂.isZero = true) := by
  constructor
  · intro same
    obtain rfl : m₁ = m₂ := congrArg material same
    refine ⟨rfl, ?_⟩
    rcases of_eq_of_iff.1 same with rfl | equal
    · exact .inl rfl
    · rcases (Binary64.eq_iff.1 equal).2.2 with rfl | zeros
      · exact .inl rfl
      · exact .inr zeros
  · rintro ⟨rfl, word | ⟨isZero, isZero'⟩⟩
    · obtain ⟨_⟩ := d₁
      obtain ⟨_⟩ := d₂
      cases word
      rfl
    · rw [of_of_isZero m₁ isZero, of_of_isZero m₁ isZero']

/-- With densities that are numbers, two keys are one if the densities are equal as numbers. -/
theorem of_eq_of_iff_eq (number : d₁.isNaN = false) :
    of m₁ d₁ = of m₂ d₂ ↔ m₁ = m₂ ∧ d₁.eq d₂ = true := by
  constructor
  · intro same
    obtain rfl : m₁ = m₂ := congrArg material same
    refine ⟨rfl, ?_⟩
    rcases of_eq_of_iff.1 same with rfl | equal
    · exact Binary64.eq_iff.2 ⟨number, number, .inl rfl⟩
    · exact equal
  · rintro ⟨rfl, equal⟩
    exact of_eq_of_iff.2 (.inr equal)

/-- From zero on, the word in a key is the place of the density on the line of doubles. -/
lemma toNat_bits_density_of (m : MaterialId) {d : Binary64} (size : Binary64.zero.le d = true) :
    ((of m d).density.bits.toNat : ℤ) = d.position := by
  by_cases isZero : d.isZero = true
  · rw [of_of_isZero m isZero]
    rcases Binary64.isZero_iff_eq.1 isZero with rfl | rfl <;> rfl
  · have positive : d.isNegative = false := by
      refine eq_false_of_ne_true fun negative => isZero (Binary64.isZero_iff.2 ?_)
      exact Binary64.magnitude_eq_zero_of_isNegative size negative
    have word : d.magnitude = d.bits.toNat :=
      Nat.mod_eq_of_lt (Nat.lt_of_not_le (of_decide_eq_false positive))
    rw [of_of_not_isZero m isZero, Binary64.position_of_not_isNegative positive, word]

/-- **Keys with densities from zero on are ordered by material, and keys of one material by
density.** -/
theorem rank_of_lt_iff (size₁ : Binary64.zero.le d₁ = true) (size₂ : Binary64.zero.le d₂ = true) :
    rank (of m₁ d₁) < rank (of m₂ d₂) ↔
      m₁.value.toInt < m₂.value.toInt ∨ m₁ = m₂ ∧ d₁.lt d₂ = true := by
  have material : m₁.value.toInt = m₂.value.toInt ↔ m₁ = m₂ := by
    cases m₁
    cases m₂
    rw [Int64.toInt_inj, MaterialId.mk.injEq]
  have density : (of m₁ d₁).density.bits.toNat < (of m₂ d₂).density.bits.toNat ↔
      d₁.lt d₂ = true := by
    rw [← Int.ofNat_lt, toNat_bits_density_of m₁ size₁, toNat_bits_density_of m₂ size₂]
    simp [Binary64.lt, (Binary64.zero_le_iff.1 size₁).1, (Binary64.zero_le_iff.1 size₂).1]
  rw [rank_lt_iff, density]
  exact or_congr_right (and_congr_left fun _ => material)

end EquivalenceKey

/-! ## Listings -/

namespace Equivalences

/-- The bindings of one material are listed by increasing density, as far as the densities are
numbers from zero on. -/
def ListedByDensity (map : Equivalences) : Prop :=
  map.entries.Pairwise fun a b => a.1.material = b.1.material → ∀ v w : EReal,
    a.1.density.number? = some v → b.1.density.number? = some w → 0 ≤ v → 0 ≤ w → v < w

/-- **A map lists what is bound to keys that are made by density.** -/
theorem listedByDensity_of_made {map : Equivalences}
    (made : ∀ key ∈ map.keys, ∃ m d, key = EquivalenceKey.of m d) : map.ListedByDensity := by
  have canonical : ∀ entry ∈ map.entries, entry.1.IsCanonical := by
    intro entry member
    obtain ⟨m, d, key⟩ := made entry.1 (List.mem_map_of_mem member)
    rw [key]
    exact EquivalenceKey.isCanonical_of m d
  refine map.ascending.imp_of_mem ?_
  rintro ⟨a, _⟩ ⟨b, _⟩ ha hb below same v w hv hw size size'
  have madeA : EquivalenceKey.of a.material a.density = a := canonical _ ha
  have madeB : EquivalenceKey.of b.material b.density = b := canonical _ hb
  have key : (EquivalenceKey.of a.material a.density).rank
      < (EquivalenceKey.of b.material b.density).rank := by
    rw [madeA, madeB]
    exact below
  rw [EquivalenceKey.rank_of_lt_iff
    ((Binary64.le_iff_of_number? Binary64.number?_zero hv).2 size)
    ((Binary64.le_iff_of_number? Binary64.number?_zero hw).2 size')] at key
  rcases key with material | ⟨_, density⟩
  · have one : a.material = b.material := same
    rw [one] at material
    exact absurd material (Int.lt_irrefl _)
  · exact (Binary64.lt_iff_of_number? hv hw).1 density

end Equivalences

namespace Comparator

variable {resolver : Resolver} {namer : Namer} {config : Config} {points : List SampledPoint}
  {c : Comparator}

/-- What is bound in a comparison is bound to the keys of its points. -/
lemma Reachable.exists_point (h : Reachable resolver namer config points c) {key : EquivalenceKey}
    (member : key ∈ c.equivalences.keys) : ∃ p ∈ points, p.key = key := by
  obtain ⟨rfl, accepted⟩ := h.eq_classifyAll
  obtain ⟨composition, bound⟩ := OrderedMap.mem_keys_iff.1 member
  rw [equivalences_classifyAll accepted, initial_tableOf, firstComposition,
    Option.bind_eq_some_iff] at bound
  obtain ⟨p, found, _⟩ := bound
  have shown := List.find?_some found
  rw [Bool.and_eq_true, decide_eq_true_eq] at shown
  exact ⟨p, List.mem_of_find?_eq_some found, shown.2⟩

lemma Reachable.listedByDensity (h : Reachable resolver namer config points c) :
    c.equivalences.ListedByDensity := by
  refine Equivalences.listedByDensity_of_made fun key member => ?_
  obtain ⟨p, _, rfl⟩ := h.exists_point member
  exact ⟨p.material, p.density, rfl⟩

end Comparator

namespace EquivalenceKey

open Comparator (Reachable)

/-- **Keys are equal and ordered as their densities are.**  Two keys are one if their materials
are and their densities are one word or both zeros; for densities that are numbers this is to say
that the numbers are equal.  If the numbers are not below zero, keys are ordered by material first
and by these numbers then, up to infinity; so every map of such keys, and with it the map of every
comparison, lists the bindings of one material by increasing density. -/
theorem order_of_densities :
    (∀ m₁ m₂ d₁ d₂,
      (of m₁ d₁ = of m₂ d₂ ↔
        m₁ = m₂ ∧ (d₁.bits = d₂.bits ∨ d₁.isZero = true ∧ d₂.isZero = true)) ∧
      (d₁.isNaN = false → d₂.isNaN = false →
        (of m₁ d₁ = of m₂ d₂ ↔ m₁ = m₂ ∧ d₁.eq d₂ = true) ∧
        ∃ v₁ v₂ : EReal, d₁.number? = some v₁ ∧ d₂.number? = some v₂ ∧
          (d₁.eq d₂ = true ↔ v₁ = v₂) ∧
          (0 ≤ v₁ → 0 ≤ v₂ → (rank (of m₁ d₁) < rank (of m₂ d₂) ↔
            m₁.value.toInt < m₂.value.toInt ∨ m₁ = m₂ ∧ v₁ < v₂)))) ∧
    (∀ map : Equivalences, (∀ key ∈ map.keys, ∃ m d, key = of m d) → map.ListedByDensity) ∧
    ∀ resolver namer config points c, Reachable resolver namer config points c →
      c.equivalences.ListedByDensity := by
  refine ⟨fun m₁ m₂ d₁ d₂ => ⟨of_eq_of_iff_bits, fun number₁ number₂ => ?_⟩,
    fun _ => Equivalences.listedByDensity_of_made, fun _ _ _ _ _ h => h.listedByDensity⟩
  have hv := Binary64.number?_eq number₁
  have hw := Binary64.number?_eq number₂
  refine ⟨of_eq_of_iff_eq number₁, _, _, hv, hw, Binary64.eq_iff_of_number? hv hw, ?_⟩
  intro size₁ size₂
  rw [← Binary64.lt_iff_of_number? hv hw]
  exact rank_of_lt_iff ((Binary64.le_iff_of_number? Binary64.number?_zero hv).2 size₁)
    ((Binary64.le_iff_of_number? Binary64.number?_zero hw).2 size₂)

/-- The borders of the order: the zeros are one key and the words of no number are many, the least
normal number is behind the largest subnormal one and infinity is behind every number, but a
smaller material goes before a larger one at any density. -/
theorem order_of_densities_at_borders :
    let largestSubnormal : Binary64 := ⟨0x000fffffffffffff⟩
    let leastNormal : Binary64 := ⟨0x0010000000000000⟩
    let largest : Binary64 := ⟨0x7fefffffffffffff⟩
    let map := Equivalences.learnedFrom [(of ⟨3⟩ .infinity, "lead"), (of ⟨3⟩ (-.zero), "void")]
    of ⟨3⟩ (-.zero) = of ⟨3⟩ .zero ∧ of ⟨3⟩ .nan ≠ of ⟨3⟩ ⟨0x7ff8000000000001⟩ ∧
      rank (of ⟨3⟩ (-.zero)) < rank (of ⟨3⟩ largestSubnormal) ∧
      rank (of ⟨3⟩ largestSubnormal) < rank (of ⟨3⟩ leastNormal) ∧
      rank (of ⟨3⟩ largest) < rank (of ⟨3⟩ .infinity) ∧
      rank (of ⟨-1⟩ .infinity) < rank (of ⟨3⟩ (-.zero)) ∧
      map.keys = [of ⟨3⟩ .zero, of ⟨3⟩ .infinity] ∧ map.ListedByDensity := by
  intro largestSubnormal leastNormal largest map
  obtain ⟨keys, maps, -⟩ := order_of_densities
  have ordered : ∀ {m₁ m₂ d₁ d₂}, d₁.isNaN = false → d₂.isNaN = false →
      Binary64.zero.le d₁ = true → Binary64.zero.le d₂ = true →
      m₁.value.toInt < m₂.value.toInt ∨ m₁ = m₂ ∧ d₁.lt d₂ = true →
        rank (of m₁ d₁) < rank (of m₂ d₂) := by
    intro m₁ m₂ d₁ d₂ number₁ number₂ size₁ size₂ below
    obtain ⟨_, v₁, v₂, hv, hw, _, order⟩ := (keys m₁ m₂ d₁ d₂).2 number₁ number₂
    refine (order ((Binary64.le_iff_of_number? Binary64.number?_zero hv).1 size₁)
      ((Binary64.le_iff_of_number? Binary64.number?_zero hw).1 size₂)).2 ?_
    rwa [← Binary64.lt_iff_of_number? hv hw]
  refine ⟨(keys _ _ _ _).1.2 ⟨rfl, .inr (by decide)⟩, fun same => ?_, ?_, ?_, ?_, ?_, by decide, ?_⟩
  · exact absurd ((keys _ _ _ _).1.1 same).2 (by decide)
  · exact ordered rfl rfl (by decide) (by decide) (by decide)
  · exact ordered rfl rfl (by decide) (by decide) (by decide)
  · exact ordered rfl rfl (by decide) (by decide) (by decide)
  · exact ordered rfl rfl (by decide) (by decide) (by decide)
  · refine maps _ fun key member => ?_
    obtain ⟨o, seen, rfl⟩ := Equivalences.mem_keys_learnedFrom.1 member
    rcases List.mem_pair.1 seen with rfl | rfl
    · exact ⟨_, _, rfl⟩
    · exact ⟨_, _, rfl⟩

end EquivalenceKey
end Concordance
