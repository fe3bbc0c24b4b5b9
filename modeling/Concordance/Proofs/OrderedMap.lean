import Concordance.OrderedMap
import Mathlib.Data.List.Nodup
import Mathlib.Data.List.Perm.Subperm
import Mathlib.Tactic.Lemma

/-!
# Looking up and binding

What `insert` does to an `OrderedMap`, seen through `get?`, `keys` and `size`.  No lemma on it
asks for ascending keys: an entry is put in at one place of the list, and looking up stops at
the first entry with the key.  That keys ascend is what makes a map known by its look-ups.

* `get?_insert_self` and `get?_insert_of_ne` say which look-ups change.
* `mem_keys_iff` ties the listed keys to the look-ups, `mem_keys_insert` says that one key is
  added.
* `size_insert_le` bounds the growth, and `size_le_of_keys_subset` the size by any list that
  holds the keys; only the latter needs that they ascend.
* `ext_get?` says that maps with the same bindings are equal, `ext_keys` that sets with the same
  members are.
* `mapValues` changes the values and leaves the keys; it commutes with `insert`.
-/

namespace Concordance.OrderedMap

open Ranked

variable {κ ν μ : Type} [Ranked κ]

/-! ## One list of entries -/

/-- A search for a key passes over an entry with another one. -/
lemma find?_cons_of_ne {key other : κ} (h : key ≠ other) (value : ν) (rest : List (κ × ν)) :
    ((key, value) :: rest).find? (fun entry => rank entry.1 == rank other)
      = rest.find? fun entry => rank entry.1 == rank other := by
  have differ : (rank key == rank other) = false := by
    rw [beq_eq_false_iff_ne]
    exact fun same => h (rank_injective same)
  rw [List.find?_cons, differ]

lemma find?_insertEntry_self (key : κ) (value : ν) (entries : List (κ × ν)) :
    (insertEntry key value entries).find? (fun entry => rank entry.1 == rank key)
      = some (key, value) := by
  induction entries with
  | nil => simp [insertEntry]
  | cons entry rest ih =>
      obtain ⟨key', value'⟩ := entry
      rw [insertEntry]
      split
      · simp
      · split
        · rename_i above
          have differ : key' ≠ key := by
            rintro rfl
            exact Nat.lt_irrefl _ above
          rw [find?_cons_of_ne differ, ih]
        · simp

lemma find?_insertEntry_of_ne {key other : κ} (h : key ≠ other) (value : ν)
    (entries : List (κ × ν)) :
    (insertEntry key value entries).find? (fun entry => rank entry.1 == rank other)
      = entries.find? fun entry => rank entry.1 == rank other := by
  induction entries with
  | nil => rw [insertEntry, find?_cons_of_ne h]
  | cons entry rest ih =>
      obtain ⟨key', value'⟩ := entry
      rw [insertEntry]
      split
      · rw [find?_cons_of_ne h]
      · split
        · rw [List.find?_cons, List.find?_cons, ih]
        · rename_i notBelow notAbove
          -- neither below nor above: the entry that is replaced has the new key
          have same : key' = key := rank_injective (by simp only at notBelow notAbove; omega)
          subst same
          rw [find?_cons_of_ne h, find?_cons_of_ne h]

lemma length_insertEntry_le (key : κ) (value : ν) (entries : List (κ × ν)) :
    (insertEntry key value entries).length ≤ entries.length + 1 := by
  induction entries with
  | nil => simp [insertEntry]
  | cons entry rest ih =>
      rw [insertEntry]
      split
      · simp
      · split
        · simpa using ih
        · simp

/-- Keys ascend, so a search for the key of an entry finds that entry. -/
lemma find?_of_mem {entries : List (κ × ν)} {entry : κ × ν}
    (ascending : entries.Pairwise fun a b => rank a.1 < rank b.1) (member : entry ∈ entries) :
    entries.find? (fun other => rank other.1 == rank entry.1) = some entry := by
  induction ascending with
  | nil => simp at member
  | @cons first rest below _ ih =>
      rcases List.mem_cons.1 member with rfl | later
      · simp
      · have differ : (rank first.1 == rank entry.1) = false := by
          rw [beq_eq_false_iff_ne]
          exact Nat.ne_of_lt (below entry later)
        rw [List.find?_cons, differ, ih later]

/-! ## Maps -/

@[simp] lemma get?_empty (key : κ) : (empty : OrderedMap κ ν).get? key = none := rfl

@[simp] lemma keys_empty : (empty : OrderedMap κ ν).keys = [] := rfl

/-- A key that was bound last is bound to the new value. -/
@[simp] theorem get?_insert_self (map : OrderedMap κ ν) (key : κ) (value : ν) :
    (map.insert key value).get? key = some value := by
  simp only [get?, insert, find?_insertEntry_self, Option.map_some]

/-- Every other look-up gives what it gave before. -/
theorem get?_insert_of_ne (map : OrderedMap κ ν) {key other : κ} (h : key ≠ other) (value : ν) :
    (map.insert key value).get? other = map.get? other := by
  simp only [get?, insert, find?_insertEntry_of_ne h]

/-- The listed keys are the ones that can be looked up. -/
theorem mem_keys_iff {map : OrderedMap κ ν} {key : κ} :
    key ∈ map.keys ↔ ∃ value, map.get? key = some value := by
  simp only [keys, get?, List.mem_map, Option.map_eq_some_iff]
  constructor
  · rintro ⟨entry, member, rfl⟩
    have found : (map.entries.find? fun e => rank e.1 == rank entry.1).isSome := by
      rw [List.find?_isSome]
      exact ⟨entry, member, beq_self_eq_true (rank entry.1)⟩
    obtain ⟨other, first⟩ := Option.isSome_iff_exists.1 found
    exact ⟨other.2, other, first, rfl⟩
  · rintro ⟨value, entry, found, rfl⟩
    have same := List.find?_some found
    refine ⟨entry, List.mem_of_find?_eq_some found, rank_injective ?_⟩
    exact beq_iff_eq.1 same

lemma contains_eq_isSome (map : OrderedMap κ ν) (key : κ) :
    map.contains key = (map.get? key).isSome := by
  rw [contains, get?, Option.isSome_map, List.isSome_find?]

/-- Binding a key adds it to the listed ones and takes none away. -/
theorem mem_keys_insert {map : OrderedMap κ ν} {key other : κ} {value : ν} :
    other ∈ (map.insert key value).keys ↔ other = key ∨ other ∈ map.keys := by
  rw [mem_keys_iff, mem_keys_iff]
  by_cases h : other = key
  · subst h
    simp
  · rw [get?_insert_of_ne map (Ne.symm h)]
    simp [h]

theorem size_insert_le (map : OrderedMap κ ν) (key : κ) (value : ν) :
    (map.insert key value).size ≤ map.size + 1 :=
  length_insertEntry_le key value map.entries

lemma length_keys (map : OrderedMap κ ν) : map.keys.length = map.size := List.length_map _

/-- No key is listed twice. -/
lemma nodup_keys (map : OrderedMap κ ν) : map.keys.Nodup := by
  rw [keys, List.Nodup, List.pairwise_map]
  refine map.ascending.imp fun {a b} below same => ?_
  rw [same] at below
  exact Nat.lt_irrefl _ below

/-- A map has no more keys than a list that holds them all. -/
theorem size_le_of_keys_subset {map : OrderedMap κ ν} {listed : List κ}
    (h : ∀ key ∈ map.keys, key ∈ listed) : map.size ≤ listed.length := by
  rw [← length_keys]
  exact (map.nodup_keys.subperm h).length_le

/-! ## Equal maps -/

/-- The entries of a map are its bindings. -/
lemma mem_entries_iff {map : OrderedMap κ ν} {key : κ} {value : ν} :
    (key, value) ∈ map.entries ↔ map.get? key = some value := by
  constructor
  · intro member
    rw [get?, find?_of_mem map.ascending member, Option.map_some]
  · intro bound
    obtain ⟨⟨other, value'⟩, found, rfl⟩ := Option.map_eq_some_iff.1 bound
    have ranked := List.find?_some found
    obtain rfl : other = key := rank_injective (beq_iff_eq.1 ranked)
    exact List.mem_of_find?_eq_some found

/-- **Maps with the same bindings are equal.** -/
theorem ext_get? {map map' : OrderedMap κ ν} (h : ∀ key, map.get? key = map'.get? key) :
    map = map' := by
  have distinct : ∀ m : OrderedMap κ ν, m.entries.Nodup := fun m =>
    List.Nodup.of_map Prod.fst m.nodup_keys
  have same : map.entries.Perm map'.entries := by
    rw [List.perm_ext_iff_of_nodup (distinct map) (distinct map')]
    rintro ⟨key, value⟩
    rw [mem_entries_iff, mem_entries_iff, h]
  have equal : map.entries = map'.entries :=
    same.eq_of_pairwise (fun a b _ _ below above => absurd (Nat.lt_trans below above)
      (Nat.lt_irrefl _)) map.ascending map'.ascending
  cases map
  cases map'
  congr

/-- A set is known by its members. -/
theorem ext_keys {set set' : OrderedMap κ Unit} (h : ∀ key, key ∈ set.keys ↔ key ∈ set'.keys) :
    set = set' := by
  have listed : ∀ (s : OrderedMap κ Unit) key, key ∈ s.keys ↔ s.get? key = some () := by
    intro s key
    rw [mem_keys_iff]
    exact ⟨fun ⟨_, bound⟩ => bound, fun bound => ⟨_, bound⟩⟩
  refine ext_get? fun key => Option.ext fun value => ?_
  cases value
  rw [← listed, ← listed, h]

/-! ## Changing the values -/

/-- The map with a function applied to every value. -/
def mapValues (f : ν → μ) (map : OrderedMap κ ν) : OrderedMap κ μ where
  entries := map.entries.map fun entry => (entry.1, f entry.2)
  ascending := List.pairwise_map.2 map.ascending

@[simp] lemma get?_mapValues (f : ν → μ) (map : OrderedMap κ ν) (key : κ) :
    (map.mapValues f).get? key = (map.get? key).map f := by
  simp only [get?, mapValues, List.find?_map, Option.map_map]
  rfl

/-- Binding a key and changing the values commute. -/
lemma mapValues_insert (f : ν → μ) (map : OrderedMap κ ν) (key : κ) (value : ν) :
    (map.insert key value).mapValues f = (map.mapValues f).insert key (f value) := by
  refine ext_get? fun other => ?_
  rw [get?_mapValues]
  by_cases same : key = other
  · subst same
    rw [get?_insert_self, get?_insert_self, Option.map_some]
  · rw [get?_insert_of_ne _ same, get?_insert_of_ne _ same, get?_mapValues]

end Concordance.OrderedMap
