import Concordance.Proofs.Json.Records
import Concordance.Proofs.Scene.Queries
import Concordance.Scene.Document

/-!
# Scenes written and read again

The document of a list of regions holds all of the list: identifiers, compositions, kinds and the
order come back as they are, and a double as `Binary64.reread?` says.  Since that may be a
neighbour of what was written, a scene is read back unchanged exactly if all its doubles are
(`Scene.roundTrip`).  It is enough that their literals are short.

The regions that come back are checked like any others.  What the neighbours of accepted doubles
make need not be accepted, and a document with a number beyond the doubles is malformed.
-/

namespace Concordance

open Json (Value)

/-! ## What comes back -/

/-- What a position comes back as. -/
def Position.reread? (p : Position) : Option Position := do
  return ⟨← p.x.reread?, ← p.y.reread?, ← p.z.reread?⟩

namespace Shape

/-- What a shape comes back as. -/
def reread? : Shape → Option Shape
  | box b => do return .box ⟨← Position.reread? b.lower, ← Position.reread? b.upper⟩
  | sphere center radius => do return .sphere (← Position.reread? center) (← radius.reread?)

/-- The doubles of a shape. -/
def parameters : Shape → List Binary64
  | box b => b.lower.toList ++ b.upper.toList
  | sphere center radius => center.toList ++ [radius]

end Shape

/-- What a region comes back as. -/
def Region.reread? (region : Region) : Option Region := do
  return { region with shape := ← region.shape.reread? }

lemma Position.reread?_eq_some_iff {p q : Position} : Position.reread? p = some q ↔
    p.x.reread? = some q.x ∧ p.y.reread? = some q.y ∧ p.z.reread? = some q.z := by
  obtain ⟨x, y, z⟩ := q
  simp only [Position.reread?, Option.bind_eq_bind, Option.bind_eq_some_iff, Option.pure_def,
    Option.some.injEq, Point.mk.injEq]
  constructor
  · rintro ⟨_, hx, _, hy, _, hz, rfl, rfl, rfl⟩
    exact ⟨hx, hy, hz⟩
  · rintro ⟨hx, hy, hz⟩
    exact ⟨x, hx, y, hy, z, hz, rfl, rfl, rfl⟩

namespace Shape

lemma reread?_box_eq_some_iff {b : Box Binary64} {shape : Shape} :
    (box b).reread? = some shape ↔ ∃ lower upper, Position.reread? b.lower = some lower ∧
      Position.reread? b.upper = some upper ∧ shape = box ⟨lower, upper⟩ := by
  simp only [reread?, Option.bind_eq_bind, Option.bind_eq_some_iff, Option.pure_def,
    Option.some.injEq]
  constructor
  · rintro ⟨lower, hl, upper, hu, rfl⟩
    exact ⟨lower, upper, hl, hu, rfl⟩
  · rintro ⟨lower, upper, hl, hu, rfl⟩
    exact ⟨lower, hl, upper, hu, rfl⟩

lemma reread?_sphere_eq_some_iff {center : Position} {radius : Binary64} {shape : Shape} :
    (sphere center radius).reread? = some shape ↔ ∃ c r, Position.reread? center = some c ∧
      radius.reread? = some r ∧ shape = sphere c r := by
  simp only [reread?, Option.bind_eq_bind, Option.bind_eq_some_iff, Option.pure_def,
    Option.some.injEq]
  constructor
  · rintro ⟨c, hc, r, hr, rfl⟩
    exact ⟨c, r, hc, hr, rfl⟩
  · rintro ⟨c, r, hc, hr, rfl⟩
    exact ⟨c, hc, r, hr, rfl⟩

/-- A shape comes back as it is exactly if its doubles do. -/
lemma reread?_eq_self_iff {shape : Shape} :
    shape.reread? = some shape ↔ ∀ x ∈ shape.parameters, x.reread? = some x := by
  cases shape with
  | box b =>
      obtain ⟨lower, upper⟩ := b
      rw [reread?_box_eq_some_iff]
      simp only [Position.reread?_eq_some_iff, parameters, Point.toList, List.mem_append,
        List.mem_cons, List.not_mem_nil, or_false]
      constructor
      · rintro ⟨_, _, hl, hu, same⟩
        cases same
        rintro x ((rfl | rfl | rfl) | rfl | rfl | rfl)
        exacts [hl.1, hl.2.1, hl.2.2, hu.1, hu.2.1, hu.2.2]
      · intro h
        exact ⟨lower, upper, ⟨h _ (by simp), h _ (by simp), h _ (by simp)⟩,
          ⟨h _ (by simp), h _ (by simp), h _ (by simp)⟩, rfl⟩
  | sphere center radius =>
      rw [reread?_sphere_eq_some_iff]
      simp only [Position.reread?_eq_some_iff, parameters, Point.toList, List.mem_append,
        List.mem_cons, List.not_mem_nil, or_false]
      constructor
      · rintro ⟨_, _, hc, hr, same⟩
        cases same
        rintro x ((rfl | rfl | rfl) | rfl)
        exacts [hc.1, hc.2.1, hc.2.2, hr]
      · intro h
        exact ⟨center, radius, ⟨h _ (by simp), h _ (by simp), h _ (by simp)⟩, h _ (by simp), rfl⟩

end Shape

lemma Region.reread?_eq_some_iff {region reread : Region} :
    region.reread? = some reread ↔ reread.id = region.id ∧
      reread.composition = region.composition ∧ region.shape.reread? = some reread.shape := by
  obtain ⟨id, composition, shape⟩ := reread
  simp only [Region.reread?, Option.bind_eq_bind, Option.bind_eq_some_iff, Option.pure_def,
    Option.some.injEq, Region.mk.injEq]
  constructor
  · rintro ⟨_, h, rfl, rfl, rfl⟩
    exact ⟨rfl, rfl, h⟩
  · rintro ⟨rfl, rfl, h⟩
    exact ⟨shape, h, rfl, rfl, rfl⟩

/-! ## From document to regions -/

lemma Binary64.isReadable_of_reread? {x y : Binary64} (h : x.reread? = some y) :
    (Value.ofBinary64 x).isReadable = true := by
  rw [Binary64.reread?] at h
  cases value : Value.ofBinary64 x with
  | number literal =>
      rw [value, Value.toBinary64?] at h
      rw [Value.isReadable, h]
      rfl
  | _ => rw [value] at h; cases h

lemma Position.isReadable_of_reread? {p q : Position} (h : Position.reread? p = some q) :
    (Value.ofCoordinates p).isReadable = true := by
  obtain ⟨x, y, z⟩ := Position.reread?_eq_some_iff.1 h
  simp only [Value.ofCoordinates, Point.toList, List.map_cons, List.map_nil, Value.isReadable,
    Value.areReadable, Binary64.isReadable_of_reread? x, Binary64.isReadable_of_reread? y,
    Binary64.isReadable_of_reread? z, Bool.and_self]

namespace Shape

/-- A shape that comes back is readable as a whole. -/
lemma isReadable_of_reread? {shape reread : Shape} (h : shape.reread? = some reread) :
    shape.toJson.isReadable = true := by
  cases shape with
  | box b =>
      obtain ⟨_, _, lower, upper, _⟩ := reread?_box_eq_some_iff.1 h
      simp [toJson, Value.ofFields, Value.isReadable, Value.membersReadable, Value.ofString,
        Position.isReadable_of_reread? lower, Position.isReadable_of_reread? upper]
  | sphere center radius =>
      obtain ⟨_, _, center, radius, _⟩ := reread?_sphere_eq_some_iff.1 h
      simp [toJson, Value.ofFields, Value.isReadable, Value.membersReadable, Value.ofString,
        Position.isReadable_of_reread? center, Binary64.isReadable_of_reread? radius]

lemma depth_toJson (shape : Shape) : shape.toJson.depth ≤ 2 := by
  have number : ∀ x, (Value.ofBinary64 x).depth = 0 := by
    intro x
    unfold Value.ofBinary64
    split <;> rfl
  cases shape <;>
    simp [toJson, Value.ofFields, Value.depth, Value.membersDepth, Value.itemsDepth,
      Value.ofString, Value.ofCoordinates, Point.toList, number]

/-- A record is read as a shape by its kind, whatever stands before it. -/
lemma ofJson?_ofFields {fields : List (String × Value)} (kind : String) {enclosing : Nat}
    (distinct : (fields.map (·.1)).Nodup) (known : ("kind", Value.ofString kind) ∈ fields) :
    ofJson? enclosing (.ofFields fields) =
      if (Value.ofFields fields).isReadable &&
          decide (enclosing + (Value.ofFields fields).depth ≤ Value.depthLimit) then
        ofParameters? kind fun names => (Value.ofFields fields).toFields? names
      else none := by
  have found : Value.onlyMember? fields "kind" = some (Value.ofString kind) :=
    Value.onlyMember?_of_mem distinct known
  rw [Value.ofFields, ofJson?]
  simp only [Value.toMembers?_fields, found, Option.bind_some, Value.toString?_ofString]

/-- The parameters of a shape are read as they come back, if the shape is readable as a whole. -/
lemma ofJson?_toJson_eq (enclosing : Nat) (shape : Shape) : ofJson? enclosing shape.toJson =
    if shape.toJson.isReadable && decide (enclosing + shape.toJson.depth ≤ Value.depthLimit)
    then shape.reread? else none := by
  cases shape with
  | box b =>
      have corners : (box b).toJson.toFields? ["min", "max"]
          = some [.ofCoordinates b.lower, .ofCoordinates b.upper] :=
        Value.toFields?_ofFields
          [("min", .ofCoordinates b.lower), ("max", .ofCoordinates b.upper)] (by simp) (by simp)
      rw [toJson] at corners ⊢
      rw [ofJson?_ofFields "box" (by simp) (by simp), ofParameters?, if_pos rfl]
      simp only [corners]
      rfl
  | sphere center radius =>
      have parts : (sphere center radius).toJson.toFields? ["center", "radius"]
          = some [.ofCoordinates center, .ofBinary64 radius] :=
        Value.toFields?_ofFields
          [("center", .ofCoordinates center), ("radius", .ofBinary64 radius)] (by simp) (by simp)
      rw [toJson] at parts ⊢
      rw [ofJson?_ofFields "sphere" (by simp) (by simp), ofParameters?,
        if_neg (show ¬ "sphere" = "box" by decide), if_pos rfl]
      simp only [parts]
      rfl

/-- **A shape is read back as what its doubles come back as.** -/
theorem ofJson?_toJson {enclosing : Nat} (room : enclosing ≤ 125) (shape : Shape) :
    ofJson? enclosing shape.toJson = shape.reread? := by
  have shallow : enclosing + shape.toJson.depth ≤ Value.depthLimit :=
    Nat.add_le_add room shape.depth_toJson
  rw [ofJson?_toJson_eq]
  split
  · rfl
  · rename_i unreadable
    cases found : shape.reread? with
    | none => rfl
    | some reread =>
        rw [isReadable_of_reread? found, decide_eq_true shallow] at unreadable
        exact absurd rfl unreadable

end Shape

lemma Region.ofJson?_toJson (region : Region) :
    Region.ofJson? 2 region.toJson = region.reread? := by
  have fields : region.toJson.toFields? ["id", "composition", "shape"] =
      some [.ofInt region.id.value.toInt, .ofString region.composition, region.shape.toJson] :=
    Value.toFields?_ofFields [("id", .ofInt region.id.value.toInt),
      ("composition", .ofString region.composition), ("shape", region.shape.toJson)] (by simp)
      fun _ member => member
  rw [Region.ofJson?, fields]
  simp only [Value.toInt64?_ofInt, Value.toString?_ofString,
    Shape.ofJson?_toJson (by decide : 2 + 1 ≤ 125)]
  rfl

lemma Region.isWritten_toJson (region : Region) : region.toJson.IsWritten := by
  have position : ∀ p : Position, (Value.ofCoordinates p).IsWritten := fun p =>
    Value.isWritten_array fun v member => by
      obtain ⟨x, _, rfl⟩ := List.mem_map.1 member
      exact Value.isWritten_ofBinary64 x
  have shape : region.shape.toJson.IsWritten := by
    cases region.shape with
    | box b =>
        refine Value.isWritten_ofFields ?_
        simp [position, Value.isWritten_ofString]
    | sphere center radius =>
        refine Value.isWritten_ofFields ?_
        simp [position, Value.isWritten_ofString, Value.isWritten_ofBinary64]
  refine Value.isWritten_ofFields ?_
  simp [shape, Value.isWritten_ofString, Value.isWritten_ofInt]

namespace Scene

/-- **The document of a list holds what its regions come back as.** -/
theorem regionsOfJson?_document (regions : List Region) :
    (Value.ofText? (document regions)).bind regionsOfJson? = regions.mapM Region.reread? := by
  let root := Value.ofFields [("regions", .array (regions.map Region.toJson))]
  have written : root.IsWritten := by
    refine Value.isWritten_ofFields fun field member => ?_
    obtain rfl := List.mem_singleton.1 member
    refine Value.isWritten_array fun v known => ?_
    obtain ⟨region, _, rfl⟩ := List.mem_map.1 known
    exact region.isWritten_toJson
  have field : root.toFields? ["regions"] = some [.array (regions.map Region.toJson)] :=
    Value.toFields?_ofFields [("regions", .array (regions.map Region.toJson))] (by simp)
      fun _ member => member
  rw [document, Value.ofText?_text written, Option.bind_some, regionsOfJson?, field]
  change (regions.map Region.toJson).mapM (Region.ofJson? 2) = _
  rw [List.mapM_map]
  exact congrArg (fun read => regions.mapM read) (funext Region.ofJson?_toJson)

/-! ## The scene that comes back -/

lemma mapM_reread?_eq_self_iff {regions : List Region} :
    regions.mapM Region.reread? = some regions ↔
      ∀ region ∈ regions, ∀ x ∈ region.shape.parameters, x.reread? = some x := by
  rw [Value.mapM_eq_some_iff, List.forall₂_same]
  refine forall₂_congr fun region _ => ?_
  rw [Region.reread?_eq_some_iff, Shape.reread?_eq_self_iff]
  simp only [true_and]

/-- The composition of a region depends on the identifiers and compositions alone. -/
lemma composition?_congr {scene other : Scene}
    (same : other.regions.map (fun region => (region.id, region.composition))
      = scene.regions.map fun region => (region.id, region.composition)) (id : RegionId) :
    other.namer.composition? id = scene.namer.composition? id := by
  have named : ∀ s : Scene, s.namer.composition? id =
      ((s.regions.map fun region => (region.id, region.composition)).find?
        (·.1 == id)).map (·.2) := by
    intro s
    rw [List.find?_map, Option.map_map]
    rfl
  rw [named, named, same]

lemma ofDocument_document (regions : List Region) :
    ofDocument (document regions) = match regions.mapM Region.reread? with
      | none => .error .malformed
      | some reread => (ofRegions reread).mapError .invalid := by
  rw [ofDocument, regionsOfJson?_document]
  cases regions.mapM Region.reread? with
  | none => rfl
  | some reread =>
      simp only
      cases ofRegions reread <;> rfl

/-- The scene in a document is that of the regions that come back. -/
lemma ofDocument_document_eq_ok_iff {regions : List Region} {scene : Scene} :
    ofDocument (document regions) = .ok scene ↔
      regions.mapM Region.reread? = some scene.regions := by
  rw [ofDocument_document]
  cases regions.mapM Region.reread? with
  | none => simp
  | some reread =>
      rw [Option.some.injEq, eq_comm (a := reread), ← ofRegions_eq_ok_iff]
      simp only
      cases ofRegions reread <;> simp [Except.mapError]

end Scene

/-- A double whose literal is short. -/
def Binary64.HasShortLiteral (x : Binary64) : Prop :=
  ∃ literal, Json.Number.ofBinary64? x = some literal ∧ literal.IsShort

namespace Scene

/-- What the document of a list of regions gives back. -/
structure RoundTrip (regions : List Region) (scene : Scene) : Prop where
  /-- The list is read with every double as it comes back, and is checked again. -/
  reading : ofDocument (document regions) = match regions.mapM Region.reread? with
    | none => .error .malformed
    | some reread => (ofRegions reread).mapError .invalid
  /-- The scene itself comes back exactly if all its doubles do. -/
  unchanged : ofDocument (document regions) = .ok scene ↔
    ∀ region ∈ regions, ∀ x ∈ region.shape.parameters, x.reread? = some x
  /-- Short literals are enough. -/
  short : (∀ region ∈ regions, ∀ x ∈ region.shape.parameters, x.HasShortLiteral) →
    ofDocument (document regions) = .ok scene
  /-- Identifiers, compositions and their order come back with any scene. -/
  names : ∀ other, ofDocument (document regions) = .ok other →
    other.regions.map (fun region => (region.id, region.composition))
      = regions.map (fun region => (region.id, region.composition)) ∧
    ∀ id, other.namer.composition? id = scene.namer.composition? id

/-- **A scene is read back from its document, up to the doubles that come back as others.** -/
theorem roundTrip {regions : List Region} {scene : Scene}
    (accepted : ofRegions regions = .ok scene) : RoundTrip regions scene := by
  obtain rfl := ofRegions_eq_ok_iff.1 accepted
  have unchanged : ofDocument (document scene.regions) = .ok scene ↔
      ∀ region ∈ scene.regions, ∀ x ∈ region.shape.parameters, x.reread? = some x := by
    rw [ofDocument_document_eq_ok_iff, mapM_reread?_eq_self_iff]
  refine ⟨ofDocument_document _, unchanged, fun short => unchanged.2 ?_, fun other read => ?_⟩
  · intro region member x parameter
    obtain ⟨literal, written, digits⟩ := short region member x parameter
    exact Binary64.reread?_of_isShort written digits
  · have pairs := Value.mapM_eq_some_iff.1 (ofDocument_document_eq_ok_iff.1 read)
    have same : other.regions.map (fun region => (region.id, region.composition))
        = scene.regions.map fun region => (region.id, region.composition) := by
      rw [eq_comm, ← List.forall₂_eq_eq_eq, List.forall₂_map_left_iff, List.forall₂_map_right_iff]
      refine pairs.imp fun region back h => ?_
      obtain ⟨id, composition, _⟩ := Region.reread?_eq_some_iff.1 h
      rw [id, composition]
    exact ⟨same, composition?_congr same⟩

/-- One sphere about the origin, as a list of regions. -/
def ball (composition : String) (radius : Binary64) : List Region :=
  [⟨⟨0⟩, composition, .sphere ⟨.zero, .zero, .zero⟩ radius⟩]

/-- A ball whose radius is one half has short literals. -/
theorem roundTrip_half_ball : ∃ scene,
    ofRegions (ball "λ \"x\"" ⟨0x3fe0000000000000⟩) = .ok scene ∧
      RoundTrip (ball "λ \"x\"" ⟨0x3fe0000000000000⟩) scene ∧
      ofDocument (document (ball "λ \"x\"" ⟨0x3fe0000000000000⟩)) = .ok scene := by
  have faultless : firstFault? [] (ball "λ \"x\"" ⟨0x3fe0000000000000⟩) = none := by
    decide +kernel
  have accepted := ofRegions_eq_ok_iff.2 (show (⟨_, faultless⟩ : Scene).regions = _ from rfl)
  have zero : Binary64.zero.HasShortLiteral :=
    ⟨⟨false, [0], [0], none⟩, by decide +kernel, by decide, by decide⟩
  have half : (⟨0x3fe0000000000000⟩ : Binary64).HasShortLiteral :=
    ⟨⟨false, [0], [5], none⟩, by decide +kernel, by decide, by decide⟩
  refine ⟨_, accepted, roundTrip accepted, (roundTrip accepted).short ?_⟩
  simp [ball, Shape.parameters, Point.toList, zero, half]

/-! ## Doubles that come back as others -/

/-- The double nearest to `1.602176634e-19` comes back as the one above it. -/
lemma reread?_moved : (⟨0x3c07a4da290c1653⟩ : Binary64).reread? = some ⟨0x3c07a4da290c1654⟩ := by
  decide +kernel

/-- Not every accepted list of finite regions comes back as it is. -/
theorem not_always_unchanged : ¬ ∀ (regions : List Region) (scene : Scene),
    (∀ region ∈ regions, ∀ x ∈ region.shape.parameters, x.isFinite = true) →
    ofRegions regions = .ok scene → ofDocument (document regions) = .ok scene := by
  intro unchanged
  have finite : ∀ region ∈ ball "A" ⟨0x3c07a4da290c1653⟩, ∀ x ∈ region.shape.parameters,
      x.isFinite = true := by decide +kernel
  have faultless : firstFault? [] (ball "A" ⟨0x3c07a4da290c1653⟩) = none := by decide +kernel
  have back := unchanged _ ⟨_, faultless⟩ finite (ofRegions_eq_ok_iff.2 rfl)
  rw [ofDocument_document_eq_ok_iff] at back
  have same := mapM_reread?_eq_self_iff.1 back _ List.mem_cons_self _
    (List.mem_append_right _ List.mem_cons_self)
  rw [reread?_moved] at same
  exact absurd same (by decide)

end Scene
end Concordance
