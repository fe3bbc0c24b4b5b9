import Concordance.Json.Decoding
import Concordance.Scene.Basic

/-!
# Scenes as JSON documents

A scene document is a record with the one field `regions`.  A region is a record of `id`,
`composition` and `shape`.  A shape names its kind first in an array, and anywhere in an
object.

Members that a record does not know are skipped unread.  A shape, however, is read as a whole
before its kind is known: all its numbers must be doubles, all its strings texts, and arrays
and objects may be nested at most `127` deep in it, counted from the root of the document.

* `Scene.ofDocument` reads and checks a scene.  The document is read to its end first, so a
  malformed document is malformed whatever regions it holds.
* `Region.toJson` and `Scene.document` write regions.
-/

namespace Concordance

open Json (Value)

/-! ## Reading -/

namespace Json.Value

mutual

/-- How deep arrays and objects are nested in a value. -/
def depth : Value → Nat
  | .array items => 1 + itemsDepth items
  | .object members => 1 + membersDepth members
  | _ => 0

/-- The depth of the deepest item. -/
def itemsDepth : List Value → Nat
  | [] => 0
  | v :: rest => Nat.max (depth v) (itemsDepth rest)

/-- The depth of the deepest member. -/
def membersDepth : List (List StringUnit × Value) → Nat
  | [] => 0
  | (_, v) :: rest => Nat.max (depth v) (membersDepth rest)

end

mutual

/-- Whether all numbers in a value are doubles and all strings texts. -/
def isReadable : Value → Bool
  | .number literal => literal.toBinary64?.isSome
  | .string units => (textOfUnits? units).isSome
  | .array items => areReadable items
  | .object members => membersReadable members
  | _ => true

/-- Whether all items are readable. -/
def areReadable : List Value → Bool
  | [] => true
  | v :: rest => isReadable v && areReadable rest

/-- Whether all members are readable, their keys included. -/
def membersReadable : List (List StringUnit × Value) → Bool
  | [] => true
  | (key, v) :: rest => (textOfUnits? key).isSome && isReadable v && membersReadable rest

end

/-- How deep arrays and objects may be nested in a document with a shape. -/
def depthLimit : Nat := 127

end Json.Value

/-- Reads the parameters of a shape of a given kind. -/
def Shape.ofParameters? (kind : String) (parameters : List String → Option (List Value)) :
    Option Shape :=
  if kind = "box" then
    match parameters ["min", "max"] with
    | some [lower, upper] => do return .box ⟨← lower.toCoordinates?, ← upper.toCoordinates?⟩
    | _ => none
  else if kind = "sphere" then
    match parameters ["center", "radius"] with
    | some [center, radius] => do return .sphere (← center.toCoordinates?) (← radius.toBinary64?)
    | _ => none
  else none

/-- Reads a shape that stands in `enclosing` arrays and objects. -/
def Shape.ofJson? (enclosing : Nat) (v : Value) : Option Shape :=
  if v.isReadable && decide (enclosing + v.depth ≤ Value.depthLimit) then
    match v with
    | .array (kind :: parameters) =>
      kind.toString?.bind fun kind =>
        Shape.ofParameters? kind fun names => (Value.array parameters).toFields? names
    | .object members =>
      (Value.toMembers? members).bind fun named =>
        ((Value.onlyMember? named "kind").bind Value.toString?).bind fun kind =>
          Shape.ofParameters? kind fun names => (Value.object members).toFields? names
    | _ => none
  else none

/-- Reads a region that stands in `enclosing` arrays and objects. -/
def Region.ofJson? (enclosing : Nat) (v : Value) : Option Region :=
  match v.toFields? ["id", "composition", "shape"] with
  | some [id, composition, shape] => do
    return ⟨⟨← id.toInt64?⟩, ← composition.toString?, ← Shape.ofJson? (enclosing + 1) shape⟩
  | _ => none

/-- Reads the regions of a scene document. -/
def regionsOfJson? (v : Value) : Option (List Region) :=
  match v.toFields? ["regions"] with
  | some [regions] => regions.toArray?.bind fun items => items.mapM (Region.ofJson? 2)
  | _ => none

/-- Why a document holds no scene. -/
inductive DocumentFault where
  /-- The text is no scene document. -/
  | malformed
  /-- The regions make no scene. -/
  | invalid (fault : SceneFault)
  deriving DecidableEq, Repr

/-- The wording of a fault. -/
def DocumentFault.message : DocumentFault → String
  | malformed => "failed to parse scene: "
  | invalid fault => fault.message

/-- Reads and checks a scene. -/
def Scene.ofDocument (text : List Char) : Except DocumentFault Scene :=
  match (Value.ofText? text).bind regionsOfJson? with
  | none => .error .malformed
  | some regions => match Scene.ofRegions regions with
    | .ok scene => .ok scene
    | .error fault => .error (.invalid fault)

/-! ## Writing -/

/-- A shape as a JSON value. -/
def Shape.toJson : Shape → Value
  | box b =>
    .ofFields [("kind", .ofString "box"), ("min", .ofCoordinates b.lower),
      ("max", .ofCoordinates b.upper)]
  | sphere center radius =>
    .ofFields [("kind", .ofString "sphere"), ("center", .ofCoordinates center),
      ("radius", .ofBinary64 radius)]

/-- A region as a JSON value. -/
def Region.toJson (region : Region) : Value :=
  .ofFields [("id", .ofInt region.id.value.toInt), ("composition", .ofString region.composition),
    ("shape", region.shape.toJson)]

/-- The scene document with the given regions. -/
def Scene.document (regions : List Region) : List Char :=
  (Value.ofFields [("regions", .array (regions.map Region.toJson))]).text

end Concordance
