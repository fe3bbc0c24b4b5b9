import Concordance.Proofs.Binary64.Words
import Concordance.Proofs.Comparison.Observations
import Concordance.Proofs.Json.Records

/-!
# Canonical keys

`EquivalenceKey.of` folds the negative zero onto zero, so that one density is one word of a key.
A key that is read takes the word as it stands in the document, and any word may stand there.

* `isCanonical_iff` and `of_eq_of_iff` say what the folding does: it moves one word only, and it
  makes one key of two densities exactly if they are one word or equal as numbers.
* `ofText?_writtenText` is the other way in.  Reading undoes writing for every key, whether it is
  canonical or not, so every key can be read from some text.
* `obtained_canonical` puts the two together: which keys are canonical, when two keys of one
  density are one key, and what the others mean for the bindings of a map.
* `not_always_canonical` is a key that is read and not canonical.
-/

namespace Concordance.EquivalenceKey

open Json

/-! ## Keys that are made -/

/-- The key that is made from the parts of a key is that key. -/
def IsCanonical (key : EquivalenceKey) : Prop := of key.material key.density = key

instance (key : EquivalenceKey) : Decidable key.IsCanonical :=
  inferInstanceAs (Decidable (of key.material key.density = key))

lemma of_of_isZero (material : MaterialId) {density : Binary64} (isZero : density.isZero = true) :
    of material density = ⟨material, .zero⟩ := by
  rw [of, if_pos isZero]

lemma of_of_not_isZero (material : MaterialId) {density : Binary64}
    (nonzero : ¬ density.isZero = true) : of material density = ⟨material, density⟩ := by
  rw [of, if_neg nonzero]

/-- **The negative zero is the one density of a key that is not canonical.** -/
theorem isCanonical_iff {key : EquivalenceKey} : key.IsCanonical ↔ key.density ≠ -.zero := by
  obtain ⟨material, density⟩ := key
  by_cases isZero : density.isZero = true
  · rcases Binary64.isZero_iff_eq.1 isZero with rfl | rfl
    · simp [IsCanonical, of_of_isZero material isZero, Binary64.zero_ne_neg_zero]
    · simp [IsCanonical, of_of_isZero material isZero, Binary64.zero_ne_neg_zero]
  · have other : density ≠ -.zero := fun same => isZero (Binary64.isZero_iff_eq.2 (.inr same))
    simp [IsCanonical, of_of_not_isZero material isZero, other]

lemma isCanonical_of (material : MaterialId) (density : Binary64) :
    (of material density).IsCanonical := by
  rw [isCanonical_iff]
  by_cases isZero : density.isZero = true
  · rw [of_of_isZero material isZero]
    exact Binary64.zero_ne_neg_zero
  · rw [of_of_not_isZero material isZero]
    exact fun same => isZero (Binary64.isZero_iff_eq.2 (.inr same))

/-- The folding makes no number a zero that was none. -/
lemma isZero_density_of (material : MaterialId) (density : Binary64) :
    (of material density).density.isZero = density.isZero := by
  by_cases isZero : density.isZero = true
  · rw [of_of_isZero material isZero, isZero]
    rfl
  · rw [of_of_not_isZero material isZero]

/-- **Two densities of a material make one key exactly if they are one word or equal as
numbers.** -/
theorem of_eq_of_iff {material : MaterialId} {x y : Binary64} :
    of material x = of material y ↔ x = y ∨ x.eq y = true := by
  constructor
  · intro same
    have zeros : x.isZero = y.isZero := by
      rw [← isZero_density_of material x, same, isZero_density_of]
    by_cases isZero : x.isZero = true
    · have isZero' : y.isZero = true := zeros ▸ isZero
      exact .inr (Binary64.eq_iff.2 ⟨Binary64.isNaN_of_isZero isZero,
        Binary64.isNaN_of_isZero isZero', .inr ⟨isZero, isZero'⟩⟩)
    · rw [of_of_not_isZero material isZero, of_of_not_isZero material (zeros ▸ isZero)] at same
      exact .inl (congrArg density same)
  · rintro (rfl | equal)
    · rfl
    · rcases (Binary64.eq_iff.1 equal).2.2 with rfl | ⟨isZero, isZero'⟩
      · rfl
      · rw [of_of_isZero material isZero, of_of_isZero material isZero']

variable {a b key : EquivalenceKey}

/-- Canonical keys of one material are one key if their densities are equal as numbers. -/
lemma eq_of_isCanonical (ha : a.IsCanonical) (hb : b.IsCanonical)
    (material : a.material = b.material) (density : a.density.eq b.density = true) : a = b :=
  calc
    a = of a.material a.density := ha.symm
    _ = of a.material b.density := of_eq_of_iff.2 (.inr density)
    _ = of b.material b.density := by rw [material]
    _ = b := hb

/-- Two keys with the negative zero are one key as well. -/
lemma eq_of_not_isCanonical (ha : ¬ a.IsCanonical) (hb : ¬ b.IsCanonical)
    (material : a.material = b.material) : a = b := by
  rw [isCanonical_iff, not_not] at ha hb
  obtain ⟨_, _⟩ := a
  obtain ⟨_, _⟩ := b
  simp_all

/-! ## Keys that are read -/

/-- The text of a key in a document. -/
def writtenText (key : EquivalenceKey) : List Char := (Value.ofKey key).text

/-- Reads a key from the text of a document. -/
def ofText? (cs : List Char) : Option EquivalenceKey := (Value.ofText? cs).bind Value.toKey?

lemma toKey?_ofKey (key : EquivalenceKey) : (Value.ofKey key).toKey? = some key := by
  have fields : (Value.ofKey key).toFields? ["material", "density_bits"] =
      some [.ofInt key.material.value.toInt, .ofInt key.density.bits.toNat] :=
    Value.toFields?_ofFields [("material", .ofInt key.material.value.toInt),
      ("density_bits", .ofInt key.density.bits.toNat)] (by simp) fun _ member => member
  rw [Value.toKey?, fields]
  simp

lemma isWritten_ofKey (key : EquivalenceKey) : (Value.ofKey key).IsWritten := by
  refine Value.isWritten_ofFields ?_
  simp [Value.isWritten_ofInt]

/-- **A key that is written is read back**, whatever word its density is. -/
theorem ofText?_writtenText (key : EquivalenceKey) : ofText? key.writtenText = some key := by
  rw [ofText?, writtenText, Value.ofText?_text (isWritten_ofKey key), Option.bind_some,
    toKey?_ofKey]

/-! ## Both ways -/

/-- Where a key comes from. -/
inductive Origin where
  /-- It is made from a material and a density. -/
  | made (material : MaterialId) (density : Binary64)
  /-- It is read from the text of a document. -/
  | read (cs : List Char)

/-- The key that comes from there, if the text is one of a key. -/
def Origin.key? : Origin → Option EquivalenceKey
  | made material density => some (of material density)
  | read cs => ofText? cs

/-- Every key can be read. -/
lemma Origin.key?_read_writtenText (key : EquivalenceKey) :
    (read key.writtenText).key? = some key := ofText?_writtenText key

/-- Keys of one density are one key exactly if both or neither of them is canonical. -/
lemma eq_iff_isCanonical_iff (material : a.material = b.material)
    (density : a.density.eq b.density = true) : a = b ↔ (a.IsCanonical ↔ b.IsCanonical) := by
  constructor
  · rintro rfl
    exact Iff.rfl
  · intro both
    by_cases ha : a.IsCanonical
    · exact eq_of_isCanonical ha (both.1 ha) material density
    · exact eq_of_not_isCanonical ha (fun hb => ha (both.2 hb)) material

/-- A map that has only been observed with keys that are made binds no other key. -/
lemma get?_eq_none_of_made {seen : List Equivalences.Observation}
    (made : ∀ o ∈ seen, ∃ material density, o.1 = of material density)
    (other : ¬ key.IsCanonical) : (Equivalences.learnedFrom seen).get? key = none := by
  rw [Equivalences.get?_learnedFrom, Equivalences.earliest?_eq_none_iff]
  intro o member same
  obtain ⟨material, density, parts⟩ := made o member
  exact other (same ▸ parts ▸ isCanonical_of material density)

/-- **A key that is made is canonical, and one that is read is unless its word is the negative
zero.**  Wherever two keys of one density come from, they are one key unless one of them is
canonical and the other is not.  A key is written and read back as itself, so it stays with its
binding; but one that is not canonical has no binding among those of keys that are made. -/
theorem obtained_canonical {origin : Origin} (obtained : origin.key? = some key) :
    (key.IsCanonical ↔ ∀ cs, origin = .read cs → key.density ≠ -.zero) ∧
    (∀ (origin' : Origin) other, origin'.key? = some other → key.material = other.material →
      key.density.eq other.density = true →
        (key = other ↔ (key.IsCanonical ↔ other.IsCanonical))) ∧
    ofText? key.writtenText = some key ∧
    (¬ key.IsCanonical → ∀ seen : List Equivalences.Observation,
      (∀ o ∈ seen, ∃ material density, o.1 = of material density) →
        (Equivalences.learnedFrom seen).get? key = none) := by
  refine ⟨?_, fun _ _ _ => eq_iff_isCanonical_iff, ofText?_writtenText key,
    fun other _ made => get?_eq_none_of_made made other⟩
  cases origin with
  | made material density =>
      obtain rfl : of material density = key := by simpa [Origin.key?] using obtained
      simp [isCanonical_of]
  | read cs => simp [isCanonical_iff]

/-- A negative zero that is read is another key than the zero that is made of it, and is not bound
where that one is; a word that is no number is canonical when it is read. -/
theorem obtained_canonical_of_negative_zero :
    let negative : EquivalenceKey := ⟨⟨3⟩, -.zero⟩
    let positive := of ⟨3⟩ negative.density
    let noNumber : EquivalenceKey := ⟨⟨3⟩, ⟨0x7ff0000000000001⟩⟩
    negative.density.eq positive.density = true ∧ negative ≠ positive ∧
      (Equivalences.learnedFrom [(positive, "water")]).get? positive = some "water" ∧
      (Equivalences.learnedFrom [(positive, "water")]).get? negative = none ∧
      ofText? negative.writtenText = some negative ∧ noNumber.IsCanonical := by
  intro negative positive noNumber
  have read := Origin.key?_read_writtenText negative
  have made : (Origin.made ⟨3⟩ negative.density).key? = some positive := rfl
  obtain ⟨folded, two, again, unbound⟩ := obtained_canonical read
  have other : ¬ negative.IsCanonical := fun canonical => folded.1 canonical _ rfl rfl
  have canonical : positive.IsCanonical :=
    (obtained_canonical made).1.2 fun _ same => by cases same
  have equal : negative.density.eq positive.density = true := by decide
  refine ⟨equal, fun same => ?_, by decide, ?_, again, ?_⟩
  · exact other (((two _ positive made rfl equal).1 same).2 canonical)
  · refine unbound other _ fun o member => ?_
    obtain rfl := List.mem_singleton.1 member
    exact ⟨⟨3⟩, negative.density, rfl⟩
  · exact (obtained_canonical (Origin.key?_read_writtenText noNumber)).1.2 fun _ _ => by decide

/-- Not every key that is read is canonical, and keys of one density need not be one key. -/
theorem not_always_canonical :
    (¬ ∀ (origin : Origin) key, origin.key? = some key → key.IsCanonical) ∧
    ¬ ∀ (origin origin' : Origin) a b, origin.key? = some a → origin'.key? = some b →
      a.material = b.material → a.density.eq b.density = true → a = b := by
  let negative : EquivalenceKey := ⟨⟨3⟩, -.zero⟩
  have read := Origin.key?_read_writtenText negative
  constructor
  · intro always
    exact absurd (always _ negative read) (by decide)
  · intro always
    exact absurd (always _ (.made ⟨3⟩ .zero) negative _ read rfl rfl (by decide)) (by decide)

end Concordance.EquivalenceKey
