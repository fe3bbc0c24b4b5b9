import Concordance.Json.Value
import Concordance.Point

/-!
# Data in JSON

Integers, doubles, texts and records as JSON values, and their reading.

A record is an object, or an array with exactly its fields in order.  In an object, members
with other keys are skipped, while a field that is missing or that stands twice is an error.
-/

namespace Concordance.Json.Value

/-! ## Scalars -/

/-- An integer as a value. -/
def ofInt (n : Int) : Value := .number (.ofInt n)

/-- A double as a value; what is no finite number is `null`. -/
def ofBinary64 (x : Binary64) : Value :=
  match Number.ofBinary64? x with
  | some literal => .number literal
  | none => .null

/-- A text as a value. -/
def ofString (s : String) : Value := .string (unitsOfText s.toList)

/-- Reads an integer literal. -/
def toInt? : Value → Option Int
  | .number literal => literal.toInt?
  | _ => none

/-- Reads a signed 64-bit word. -/
def toInt64? (v : Value) : Option Int64 :=
  v.toInt?.bind fun n =>
    if Int64.minValue.toInt ≤ n ∧ n ≤ Int64.maxValue.toInt then some (.ofInt n) else none

/-- Reads an unsigned 64-bit word. -/
def toUInt64? (v : Value) : Option UInt64 :=
  v.toInt?.bind fun n => if 0 ≤ n ∧ n < UInt64.size then some (.ofNat n.toNat) else none

/-- Reads a double. -/
def toBinary64? : Value → Option Binary64
  | .number literal => literal.toBinary64?
  | _ => none

/-- Reads a text. -/
def toString? : Value → Option String
  | .string units => (textOfUnits? units).map String.ofList
  | _ => none

/-- Reads the items of an array. -/
def toArray? : Value → Option (List Value)
  | .array items => some items
  | _ => none

/-! ## Records -/

/-- A record as an object. -/
def ofFields (fields : List (String × Value)) : Value :=
  .object (fields.map fun (name, v) => (unitsOfText name.toList, v))

/-- The members of an object with their keys as texts. -/
def toMembers? (members : List (List StringUnit × Value)) : Option (List (String × Value)) :=
  members.mapM fun (key, v) => (textOfUnits? key).map fun name => (String.ofList name, v)

/-- The value of the one member with a given key. -/
def onlyMember? (members : List (String × Value)) (name : String) : Option Value :=
  match members.filter (·.1 == name) with
  | [(_, v)] => some v
  | _ => none

/-- The fields of a record in the given order. -/
def toFields? (names : List String) : Value → Option (List Value)
  | .array items => if items.length = names.length then some items else none
  | .object members => (toMembers? members).bind fun members => names.mapM (onlyMember? members)
  | _ => none

/-! ## Points -/

/-- A position as a record. -/
def ofPosition (p : Position) : Value :=
  ofFields [("x", ofBinary64 p.x), ("y", ofBinary64 p.y), ("z", ofBinary64 p.z)]

/-- Reads a list of exactly three coordinates. -/
def ofItems? : List Value → Option Position
  | [x, y, z] => do return ⟨← x.toBinary64?, ← y.toBinary64?, ← z.toBinary64?⟩
  | _ => none

/-- Reads a position from a record. -/
def toPosition? (v : Value) : Option Position := (v.toFields? ["x", "y", "z"]).bind ofItems?

/-- A position as a bare list of coordinates. -/
def ofCoordinates (p : Position) : Value := .array (p.toList.map ofBinary64)

/-- Reads a position from a bare list of coordinates. -/
def toCoordinates? (v : Value) : Option Position := v.toArray?.bind ofItems?

/-- A sampled point as a record. -/
def ofSampledPoint (p : SampledPoint) : Value :=
  ofFields
    [("position", ofPosition p.position), ("material", ofInt p.material.value.toInt),
      ("density", ofBinary64 p.density), ("rank", ofInt p.rank.toInt)]

/-- Reads a sampled point from a record. -/
def toSampledPoint? (v : Value) : Option SampledPoint :=
  match v.toFields? ["position", "material", "density", "rank"] with
  | some [position, material, density, rank] => do
    return ⟨← position.toPosition?, ⟨← material.toInt64?⟩, ← density.toBinary64?,
      ← rank.toInt64?⟩
  | _ => none

/-! ## Keys -/

/-- A key as a record.  The density stands as its word, read as a natural number. -/
def ofKey (key : EquivalenceKey) : Value :=
  ofFields
    [("material", ofInt key.material.value.toInt),
      ("density_bits", ofInt key.density.bits.toNat)]

/-- Reads a key from a record.  The word of the density is taken as it is. -/
def toKey? (v : Value) : Option EquivalenceKey :=
  match v.toFields? ["material", "density_bits"] with
  | some [material, density] => do return ⟨⟨← material.toInt64?⟩, ⟨← density.toUInt64?⟩⟩
  | _ => none

end Concordance.Json.Value
