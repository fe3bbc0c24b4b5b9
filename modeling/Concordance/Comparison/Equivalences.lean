import Concordance.EquivalenceKey

/-!
# Learned equivalences

The correspondence between the keys of a trace and the compositions of a model is learned: the
first composition seen for a key is bound to it, and later ones are checked against that
binding.  A key is never bound again.

* `Equivalences.observe` learns from one observation, or checks it.
* `Equivalences.table` writes the bindings, one per row.
-/

namespace Concordance

/-- Compositions bound to keys. -/
abbrev Equivalences := OrderedMap EquivalenceKey String

/-- What an observation of a composition at a key comes to. -/
inductive Sighting where
  /-- The key was unknown and is now bound to the composition. -/
  | bound
  /-- The key was bound to this composition. -/
  | agrees
  /-- The key was bound to another composition. -/
  | conflicts (expected : String)
  deriving DecidableEq, Repr

namespace Equivalences

/-- Checks an observation against the bindings. -/
def sighting (map : Equivalences) (key : EquivalenceKey) (composition : String) : Sighting :=
  match map.get? key with
  | none => .bound
  | some expected => if expected = composition then .agrees else .conflicts expected

/-- Checks an observation, and binds the key if this is its first one. -/
def observe (map : Equivalences) (key : EquivalenceKey) (composition : String) :
    Sighting × Equivalences :=
  (map.sighting key composition,
    if map.contains key then map else map.insert key composition)

/-- Fills a text up with blanks on the left, to a given width at least. -/
def alignRight (width : Nat) (cs : List Char) : List Char :=
  List.replicate (width - cs.length) ' ' ++ cs

/-- Fills a text up with blanks on the right, to a given width at least. -/
def alignLeft (width : Nat) (cs : List Char) : List Char :=
  cs ++ List.replicate (width - cs.length) ' '

/-- The row of a binding. -/
def rowText (key : EquivalenceKey) (composition : String) : List Char :=
  "  material ".toList ++ alignRight 6 key.material.text ++ " @ density ".toList ++
    alignLeft 12 key.density.positionalText ++ " -> ".toList ++ composition.toList ++ ['\n']

/-- The heading of the table. -/
def headingText (size : Nat) : List Char :=
  "Learned equivalences (".toList ++ Decimal.natText size ++ "):\n".toList

/-- The table of all bindings in key order. -/
def table (map : Equivalences) : List Char :=
  headingText map.size ++
    map.entries.flatMap fun (key, composition) => rowText key composition

end Equivalences
end Concordance
