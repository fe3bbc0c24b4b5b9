/-!
# Maps listed in key order

An `OrderedMap` is a list of entries whose keys ascend.  Two maps with the same bindings are
therefore equal.  Keys are ordered by `Ranked.rank`, which sends different keys to different
natural numbers.

* `get?` looks a key up, `insert` binds a key and replaces an older binding.
* `keys`, `size` and `entries` show the map in key order.
-/

namespace Concordance

/-- Types whose elements are listed by a natural number of their own. -/
class Ranked (κ : Type) where
  rank : κ → Nat
  rank_injective : ∀ {a b : κ}, rank a = rank b → a = b

open Ranked

/-- A map given by its entries, in ascending order of their keys. -/
structure OrderedMap (κ ν : Type) [Ranked κ] where
  entries : List (κ × ν)
  ascending : entries.Pairwise fun a b => rank a.1 < rank b.1

namespace OrderedMap

variable {κ ν : Type} [Ranked κ]

/-- Puts an entry at its place in an ascending list, instead of an entry with the same key. -/
def insertEntry (key : κ) (value : ν) : List (κ × ν) → List (κ × ν)
  | [] => [(key, value)]
  | entry :: rest =>
    if rank key < rank entry.1 then (key, value) :: entry :: rest
    else if rank entry.1 < rank key then entry :: insertEntry key value rest
    else (key, value) :: rest

/-- Only the new entry is new. -/
theorem mem_of_mem_insertEntry {key : κ} {value : ν} {entries : List (κ × ν)} {e : κ × ν}
    (h : e ∈ insertEntry key value entries) : e = (key, value) ∨ e ∈ entries := by
  induction entries with
  | nil => simpa [insertEntry] using h
  | cons entry rest ih =>
    rw [insertEntry] at h
    split at h
    · simpa using h
    · split at h
      · rcases List.mem_cons.1 h with h | h
        · simp [h]
        · rcases ih h with h | h <;> simp [h]
      · rcases List.mem_cons.1 h with h | h <;> simp [h]

/-- Putting an entry at its place keeps the keys ascending. -/
theorem ascending_insertEntry {key : κ} {value : ν} {entries : List (κ × ν)}
    (h : entries.Pairwise fun a b => rank a.1 < rank b.1) :
    (insertEntry key value entries).Pairwise fun a b => rank a.1 < rank b.1 := by
  induction entries with
  | nil => simp [insertEntry]
  | cons entry rest ih =>
    rw [List.pairwise_cons] at h
    obtain ⟨first, later⟩ := h
    rw [insertEntry]
    split
    · rename_i below
      refine List.pairwise_cons.2 ⟨fun e he => ?_, List.pairwise_cons.2 ⟨first, later⟩⟩
      rcases List.mem_cons.1 he with rfl | he
      · exact below
      · exact Nat.lt_trans below (first e he)
    · split
      · rename_i above
        refine List.pairwise_cons.2 ⟨fun e he => ?_, ih later⟩
        rcases mem_of_mem_insertEntry he with rfl | he
        · exact above
        · exact first e he
      · refine List.pairwise_cons.2 ⟨fun e he => ?_, later⟩
        have := first e he
        simp only
        omega

/-- The map without entries. -/
def empty : OrderedMap κ ν := ⟨[], List.Pairwise.nil⟩

instance : Inhabited (OrderedMap κ ν) := ⟨empty⟩

/-- The value bound to a key, if there is one. -/
def get? (map : OrderedMap κ ν) (key : κ) : Option ν :=
  (map.entries.find? fun entry => rank entry.1 == rank key).map (·.2)

/-- Whether a key is bound. -/
def contains (map : OrderedMap κ ν) (key : κ) : Bool :=
  map.entries.any fun entry => rank entry.1 == rank key

/-- Binds a key to a value, whatever it was bound to before. -/
def insert (map : OrderedMap κ ν) (key : κ) (value : ν) : OrderedMap κ ν :=
  ⟨insertEntry key value map.entries, ascending_insertEntry map.ascending⟩

/-- The number of bound keys. -/
def size (map : OrderedMap κ ν) : Nat := map.entries.length

/-- The bound keys in ascending order. -/
def keys (map : OrderedMap κ ν) : List κ := map.entries.map (·.1)

end OrderedMap
end Concordance
