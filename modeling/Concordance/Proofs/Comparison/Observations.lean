import Concordance.Proofs.Comparison.Classification
import Mathlib.Data.List.Dedup

/-!
# The first observation of a key wins

The bindings of a map that has only been observed with are a function of the observations, and
that function needs no map: a key is bound to what its earliest observation shows.

* `ShownFirst` and `ComesTo` say of a list of observations which compositions are bound and what
  one more observation comes to.  Neither goes through a map.
* `get?_observe` is the step: an observation binds a key that is not bound, and nothing else.
* `get?_observeAll` is the run.  A key that was bound before the list keeps its composition, and
  every other key gets that of its earliest observation.
* `observeAll_first_wins` reads all of a map off its list of observations, so lists that show the
  same compositions first leave the same map.
-/

namespace Concordance.Equivalences

open OrderedMap

/-! ## Lists of observations -/

/-- A key and the composition that was seen for it. -/
abbrev Observation := EquivalenceKey × String

/-- No observation of the list has the key. -/
def Unseen (seen : List Observation) (key : EquivalenceKey) : Prop := ∀ o ∈ seen, o.1 ≠ key

/-- The earliest observation of the key shows the composition. -/
def ShownFirst (seen : List Observation) (key : EquivalenceKey) (composition : String) : Prop :=
  ∃ before later, seen = before ++ (key, composition) :: later ∧ Unseen before key

/-- What an observation comes to behind the observations before it. -/
inductive ComesTo (before : List Observation) (key : EquivalenceKey) (composition : String) :
    Sighting → Prop
  | bound (unseen : Unseen before key) : ComesTo before key composition .bound
  | agrees (first : ShownFirst before key composition) : ComesTo before key composition .agrees
  | conflicts {expected : String} (first : ShownFirst before key expected)
      (differs : expected ≠ composition) : ComesTo before key composition (.conflicts expected)

/-- The composition that the earliest observation of a key shows. -/
def earliest? (seen : List Observation) (key : EquivalenceKey) : Option String :=
  (seen.find? fun o => o.1 = key).map (·.2)

lemma earliest?_nil (key : EquivalenceKey) : earliest? [] key = none := rfl

lemma earliest?_cons (o : Observation) (rest : List Observation) (key : EquivalenceKey) :
    earliest? (o :: rest) key = if o.1 = key then some o.2 else earliest? rest key := by
  by_cases same : o.1 = key <;> simp [earliest?, same]

lemma earliest?_eq_none_iff {seen : List Observation} {key : EquivalenceKey} :
    earliest? seen key = none ↔ Unseen seen key := by
  simp [earliest?, Unseen]

lemma earliest?_eq_some_iff {seen : List Observation} {key : EquivalenceKey}
    {composition : String} :
    earliest? seen key = some composition ↔ ShownFirst seen key composition := by
  simp only [earliest?, Option.map_eq_some_iff, List.find?_eq_some_iff_append, ShownFirst, Unseen]
  constructor
  · rintro ⟨⟨other, shown⟩, ⟨same, before, later, split, others⟩, rfl⟩
    obtain rfl : other = key := by simpa using same
    exact ⟨before, later, split, by simpa using others⟩
  · rintro ⟨before, later, split, others⟩
    exact ⟨(key, composition), ⟨by simp, before, later, split, by simpa using others⟩, rfl⟩

/-! ## Observing -/

variable {map : Equivalences} {key : EquivalenceKey} {composition : String}

/-- Checks observations one after the other: what each comes to, and the bindings behind them. -/
def observeAll (map : Equivalences) : List Observation → List Sighting × Equivalences
  | [] => ([], map)
  | o :: rest =>
    let (sighting, map) := map.observe o.1 o.2
    let (sightings, map) := observeAll map rest
    (sighting :: sightings, map)

lemma observeAll_cons_fst (map : Equivalences) (o : Observation) (rest : List Observation) :
    (observeAll map (o :: rest)).1
      = map.sighting o.1 o.2 :: (observeAll (map.observe o.1 o.2).2 rest).1 := rfl

lemma observeAll_cons_snd (map : Equivalences) (o : Observation) (rest : List Observation) :
    (observeAll map (o :: rest)).2 = (observeAll (map.observe o.1 o.2).2 rest).2 := rfl

/-- A key that is bound stays bound as it was. -/
lemma observe_of_bound {bound : String} (h : map.get? key = some bound) (composition : String) :
    (map.observe key composition).2 = map := by
  rw [observe, contains_eq_isSome, h]
  rfl

/-- **An observation binds its key if that is not bound, and changes no other look-up.** -/
theorem get?_observe (map : Equivalences) (key : EquivalenceKey) (composition : String)
    (other : EquivalenceKey) :
    (map.observe key composition).2.get? other
      = (map.get? other).or (if key = other then some composition else none) := by
  cases h : map.get? key with
  | none =>
      rw [observe_of_unseen h]
      by_cases same : key = other
      · subst same
        simp [h]
      · simp [get?_insert_of_ne _ same, same]
  | some bound =>
      rw [observe_of_bound h]
      by_cases same : key = other
      · subst same
        simp [h]
      · simp [same]

/-- **A list of observations binds the keys that are not bound, each to what is shown first.** -/
theorem get?_observeAll (map : Equivalences) (seen : List Observation) (key : EquivalenceKey) :
    (observeAll map seen).2.get? key = (map.get? key).or (earliest? seen key) := by
  induction seen generalizing map with
  | nil => simp [observeAll, earliest?_nil]
  | cons o rest ih =>
      rw [observeAll_cons_snd, ih, get?_observe, earliest?_cons, Option.or_assoc]
      by_cases same : o.1 = key <;> simp [same]

/-- What an observation of a list comes to is decided by the bindings behind those before it. -/
lemma getElem?_observeAll (map : Equivalences) (seen : List Observation) (n : Nat) :
    (observeAll map seen).1[n]?
      = seen[n]?.map fun o => (observeAll map (seen.take n)).2.sighting o.1 o.2 := by
  induction seen generalizing map n with
  | nil => simp [observeAll]
  | cons o rest ih =>
      rw [observeAll_cons_fst]
      cases n with
      | zero => simp [observeAll]
      | succ n => simp [ih, observeAll_cons_snd]

lemma length_observeAll (map : Equivalences) (seen : List Observation) :
    (observeAll map seen).1.length = seen.length := by
  induction seen generalizing map with
  | nil => rfl
  | cons o rest ih => simp [observeAll_cons_fst, ih]

/-! ## Maps that were empty -/

/-- The bindings that a list of observations leaves on a map that was empty. -/
def learnedFrom (seen : List Observation) : Equivalences := (observeAll .empty seen).2

lemma get?_learnedFrom (seen : List Observation) (key : EquivalenceKey) :
    (learnedFrom seen).get? key = earliest? seen key := by
  simp [learnedFrom, get?_observeAll]

lemma mem_keys_learnedFrom {seen : List Observation} :
    key ∈ (learnedFrom seen).keys ↔ ∃ o ∈ seen, o.1 = key := by
  rw [mem_keys_iff, ← Option.isSome_iff_exists, get?_learnedFrom, ← Option.ne_none_iff_isSome,
    Ne, earliest?_eq_none_iff, Unseen]
  simp

/-- Each key of a list is bound once, so there are as many bindings as different keys. -/
lemma size_learnedFrom (seen : List Observation) :
    (learnedFrom seen).size = (seen.map (·.1)).dedup.length := by
  have same : (learnedFrom seen).keys.Perm (seen.map (·.1)).dedup := by
    rw [List.perm_ext_iff_of_nodup (nodup_keys _) (List.nodup_dedup _)]
    intro key
    simp [mem_keys_learnedFrom]
  rw [← length_keys, same.length_eq]

/-- The sightings are those that the list asks for. -/
lemma sighting_learnedFrom_eq_iff {before : List Observation} {sighting : Sighting} :
    (learnedFrom before).sighting key composition = sighting ↔
      ComesTo before key composition sighting := by
  constructor
  · rintro rfl
    cases h : earliest? before key with
    | none =>
        rw [sighting_of_unseen ((get?_learnedFrom before key).trans h)]
        exact .bound (earliest?_eq_none_iff.1 h)
    | some expected =>
        have bound := (get?_learnedFrom before key).trans h
        by_cases same : expected = composition
        · subst same
          rw [sighting_of_same bound]
          exact .agrees (earliest?_eq_some_iff.1 h)
        · rw [sighting_of_other bound same]
          exact .conflicts (earliest?_eq_some_iff.1 h) same
  · intro h
    cases h with
    | bound unseen =>
        exact sighting_of_unseen
          ((get?_learnedFrom before key).trans (earliest?_eq_none_iff.2 unseen))
    | agrees first =>
        exact sighting_of_same
          ((get?_learnedFrom before key).trans (earliest?_eq_some_iff.2 first))
    | conflicts first differs =>
        exact sighting_of_other
          ((get?_learnedFrom before key).trans (earliest?_eq_some_iff.2 first)) differs

/-- What a list of observations comes to on a map that was empty. -/
structure FirstWins (seen : List Observation) : Prop where
  answered : (observeAll .empty seen).1.length = seen.length
  /-- Every observation comes to what those before it decide, and to nothing else. -/
  sightings : ∀ n key composition, seen[n]? = some (key, composition) → ∀ sighting,
    (observeAll .empty seen).1[n]? = some sighting ↔
      ComesTo (seen.take n) key composition sighting
  /-- A key is bound to what its earliest observation shows. -/
  bound : ∀ key composition, (learnedFrom seen).get? key = some composition ↔
    ShownFirst seen key composition
  /-- A key without an observation is not bound. -/
  unbound : ∀ key, (learnedFrom seen).get? key = none ↔ Unseen seen key
  contains : ∀ key, (learnedFrom seen).contains key = ((learnedFrom seen).get? key).isSome
  /-- There are as many bindings as different keys. -/
  size : (learnedFrom seen).size = (seen.map (·.1)).dedup.length
  /-- Exactly the bindings are listed. -/
  entries : ∀ key composition, (key, composition) ∈ (learnedFrom seen).entries ↔
    ShownFirst seen key composition
  /-- The keys that were observed are listed, and each of them once. -/
  keys : ∀ key, key ∈ (learnedFrom seen).keys ↔ ∃ o ∈ seen, o.1 = key
  once : (learnedFrom seen).keys.Nodup
  /-- Materials ascend as integers, and densities of one material as words. -/
  ascending : (learnedFrom seen).entries.Pairwise fun a b =>
    a.1.material.value.toInt < b.1.material.value.toInt ∨
      a.1.material.value.toInt = b.1.material.value.toInt ∧
        a.1.density.bits.toNat < b.1.density.bits.toNat

lemma firstWins (seen : List Observation) : FirstWins seen where
  answered := length_observeAll _ seen
  sightings n key composition found sighting := by
    rw [getElem?_observeAll, found, Option.map_some, Option.some.injEq]
    exact sighting_learnedFrom_eq_iff
  bound key composition := by rw [get?_learnedFrom, earliest?_eq_some_iff]
  unbound key := by rw [get?_learnedFrom, earliest?_eq_none_iff]
  contains key := contains_eq_isSome _ key
  size := size_learnedFrom seen
  entries key composition := by
    rw [mem_entries_iff, get?_learnedFrom, earliest?_eq_some_iff]
  keys key := mem_keys_learnedFrom
  once := nodup_keys _
  ascending := (learnedFrom seen).ascending.imp fun below => EquivalenceKey.rank_lt_iff.1 below

/-- Lists that show the same compositions first leave the same map. -/
lemma learnedFrom_congr {seen seen' : List Observation}
    (same : ∀ key composition, ShownFirst seen key composition ↔ ShownFirst seen' key composition) :
    learnedFrom seen = learnedFrom seen' := by
  refine ext_get? fun key => Option.ext fun composition => ?_
  rw [get?_learnedFrom, get?_learnedFrom, earliest?_eq_some_iff, earliest?_eq_some_iff, same]

/-- **The first observation of a key wins.**  On a map that was empty, a list of observations
comes to what `ComesTo` says, one by one, and leaves the bindings that `ShownFirst` says, listed
once each and in ascending order of their keys.  Two lists that show the same compositions first
leave maps that are listed and written alike, however often and in which order the keys come. -/
theorem observeAll_first_wins (seen : List Observation) :
    FirstWins seen ∧ ∀ seen', (∀ key composition,
      ShownFirst seen' key composition ↔ ShownFirst seen key composition) →
        (learnedFrom seen').entries = (learnedFrom seen).entries ∧
          (learnedFrom seen').table = (learnedFrom seen).table := by
  refine ⟨firstWins seen, fun seen' same => ?_⟩
  rw [learnedFrom_congr same]
  exact ⟨rfl, rfl⟩

/-- Two zeros and a word that is no number are three keys of one material; a conflict binds
nothing, and the order in which the keys come first is forgotten. -/
theorem observeAll_first_wins_of_zeros :
    let negative : EquivalenceKey := ⟨⟨3⟩, ⟨0x8000000000000000⟩⟩
    let positive : EquivalenceKey := ⟨⟨3⟩, .zero⟩
    let noNumber : EquivalenceKey := ⟨⟨3⟩, ⟨0x7ff0000000000001⟩⟩
    let seen := [(negative, "air"), (noNumber, "fuel"), (positive, "water"), (negative, "fuel")]
    let seen' := [(positive, "water"), (noNumber, "fuel"), (negative, "air")]
    ComesTo (seen.take 3) negative "fuel" (.conflicts "air") ∧
      (learnedFrom seen).get? negative = some "air" ∧ (learnedFrom seen).size = 3 ∧
      (learnedFrom seen).entries = (learnedFrom seen').entries ∧
      (learnedFrom seen).table = (learnedFrom seen').table := by
  intro negative positive noNumber seen seen'
  obtain ⟨wins, alike⟩ := observeAll_first_wins seen
  have same : ∀ key, earliest? seen' key = earliest? seen key := by
    intro key
    simp only [seen, seen', earliest?_cons, earliest?_nil]
    by_cases h : negative = key
    · subst h
      decide
    · simp only [h, if_false]
      by_cases h' : noNumber = key
      · subst h'
        decide
      · simp only [h', if_false]
  have first : ShownFirst seen negative "air" := earliest?_eq_some_iff.1 (by decide)
  obtain ⟨entries, table⟩ := alike seen' fun key composition => by
    rw [← earliest?_eq_some_iff, ← earliest?_eq_some_iff, same]
  exact ⟨(wins.sightings 3 negative "fuel" rfl (.conflicts "air")).1 (by decide),
    (wins.bound negative "air").2 first, wins.size.trans (by decide), entries.symm, table.symm⟩

end Concordance.Equivalences
