import Concordance.Json.Decoding
import Concordance.Proofs.Json.Documents
import Concordance.Proofs.Json.Rereading
import Mathlib.Data.List.Forall2
import Mathlib.Data.List.Nodup

/-!
# Records are read back

What is written as a value is read back from it, and the values that are written make documents
that are read back (`Value.IsWritten`).

* Integers of a word and texts come back as they are, doubles as `Binary64.reread?` says.
* A record has each of its fields under one key, so that any of them are found in any order
  (`Value.toFields?_ofFields`).
-/

namespace Concordance.Json.Value

/-! ## Scalars -/

lemma isWritten_ofInt (n : Int) : (ofInt n).IsWritten := by
  intro t member
  obtain rfl := List.mem_singleton.1 member
  exact Number.isWritten_ofInt n

lemma isWritten_ofString (s : String) : (ofString s).IsWritten := by
  intro t member
  obtain rfl := List.mem_singleton.1 member
  exact ⟨s.toList, rfl⟩

lemma isWritten_ofBinary64 (x : Binary64) : (ofBinary64 x).IsWritten := by
  intro t member
  unfold ofBinary64 at member
  split at member
  · rename_i literal h
    obtain rfl := List.mem_singleton.1 member
    exact Number.isWritten_of_ofBinary64? h
  · obtain rfl := List.mem_singleton.1 member
    exact trivial

@[simp] lemma toInt64?_ofInt (i : Int64) : (ofInt i.toInt).toInt64? = some i := by
  rw [toInt64?, ofInt, toInt?, Number.toInt?_ofInt, Option.bind_some,
    if_pos ⟨Int64.minValue_le_toInt i, Int64.toInt_le i⟩, Int64.ofInt_toInt]

@[simp] lemma toUInt64?_ofInt (word : UInt64) : (ofInt word.toNat).toUInt64? = some word := by
  have inRange : (0 : Int) ≤ word.toNat ∧ (word.toNat : Int) < UInt64.size :=
    ⟨Int.natCast_nonneg _, Int.ofNat_lt.2 word.toNat_lt⟩
  rw [toUInt64?, ofInt, toInt?, Number.toInt?_ofInt, Option.bind_some, if_pos inRange,
    Int.toNat_natCast, UInt64.ofNat_toNat]

@[simp] lemma toString?_ofString (s : String) : (ofString s).toString? = some s := by
  rw [ofString, toString?, textOfUnits?_unitsOfText, Option.map_some, String.ofList_toList]

/-! ## Arrays and objects -/

/-- A list is read item by item. -/
lemma mapM_eq_some_iff {α β : Type} {read : α → Option β} {items : List α} {found : List β} :
    items.mapM read = some found ↔
      List.Forall₂ (fun item other => read item = some other) items found := by
  induction items generalizing found with
  | nil =>
      rw [List.forall₂_nil_left_iff, List.mapM_nil]
      exact ⟨fun h => (Option.some.inj h).symm, fun h => h ▸ rfl⟩
  | cons item rest ih =>
      simp only [List.mapM_cons, Option.bind_eq_bind, Option.bind_eq_some_iff, Option.pure_def,
        Option.some.injEq, List.forall₂_cons_left_iff, ih]
      constructor
      · rintro ⟨first, read, others, later, rfl⟩
        exact ⟨first, others, read, later, rfl⟩
      · rintro ⟨first, others, read, later, rfl⟩
        exact ⟨first, read, others, later, rfl⟩

lemma mem_itemTokens {t : Token} {items : List Value} (h : t ∈ itemTokens items) :
    t = .comma ∨ ∃ v ∈ items, t ∈ v.tokens := by
  induction items with
  | nil => cases h
  | cons v rest ih =>
      cases rest with
      | nil => exact .inr ⟨v, List.mem_cons_self, h⟩
      | cons w rest =>
          rw [itemTokens_cons_cons, List.mem_append, List.mem_cons] at h
          rcases h with first | rfl | later
          · exact .inr ⟨v, List.mem_cons_self, first⟩
          · exact .inl rfl
          · rcases ih later with mark | ⟨u, known, member⟩
            · exact .inl mark
            · exact .inr ⟨u, List.mem_cons_of_mem v known, member⟩

lemma isWritten_array {items : List Value} (written : ∀ v ∈ items, v.IsWritten) :
    (array items).IsWritten := by
  intro t member
  rw [tokens, List.mem_append, List.mem_cons, List.mem_singleton] at member
  rcases member with (rfl | inner) | rfl
  · trivial
  · rcases mem_itemTokens inner with rfl | ⟨v, known, part⟩
    · trivial
    · exact written v known t part
  · trivial

lemma mem_memberTokens {t : Token} {members : List (List StringUnit × Value)}
    (h : t ∈ memberTokens members) :
    t = .comma ∨ t = .colon ∨ ∃ member ∈ members, t = .string member.1 ∨ t ∈ member.2.tokens := by
  induction members with
  | nil => cases h
  | cons member rest ih =>
      obtain ⟨key, v⟩ := member
      cases rest with
      | nil =>
          rw [memberTokens, List.mem_cons, List.mem_cons] at h
          rcases h with rfl | rfl | value
          · exact .inr (.inr ⟨_, List.mem_cons_self, .inl rfl⟩)
          · exact .inr (.inl rfl)
          · exact .inr (.inr ⟨_, List.mem_cons_self, .inr value⟩)
      | cons next rest =>
          rw [memberTokens_cons_cons, List.mem_cons, List.mem_cons, List.mem_append,
            List.mem_cons] at h
          rcases h with rfl | rfl | value | rfl | later
          · exact .inr (.inr ⟨_, List.mem_cons_self, .inl rfl⟩)
          · exact .inr (.inl rfl)
          · exact .inr (.inr ⟨_, List.mem_cons_self, .inr value⟩)
          · exact .inl rfl
          · rcases ih later with mark | mark | ⟨other, known, part⟩
            · exact .inl mark
            · exact .inr (.inl mark)
            · exact .inr (.inr ⟨other, List.mem_cons_of_mem _ known, part⟩)

lemma isWritten_ofFields {fields : List (String × Value)}
    (written : ∀ field ∈ fields, field.2.IsWritten) : (ofFields fields).IsWritten := by
  intro t member
  rw [ofFields, tokens, List.mem_append, List.mem_cons, List.mem_singleton] at member
  rcases member with (rfl | inner) | rfl
  · trivial
  · rcases mem_memberTokens inner with rfl | rfl | ⟨other, known, part⟩
    · trivial
    · trivial
    · obtain ⟨field, source, rfl⟩ := List.mem_map.1 known
      rcases part with rfl | part
      · exact ⟨field.1.toList, rfl⟩
      · exact written field source t part
  · trivial

/-! ## Fields -/

@[simp] lemma toMembers?_fields (fields : List (String × Value)) :
    toMembers? (fields.map fun (name, v) => (unitsOfText name.toList, v)) = some fields := by
  rw [toMembers?, mapM_eq_some_iff, List.forall₂_map_left_iff, List.forall₂_same]
  rintro ⟨name, v⟩ _
  simp only [textOfUnits?_unitsOfText, Option.map_some, String.ofList_toList]

/-- A member is found under its key where no other has that key. -/
lemma onlyMember?_of_mem {members : List (String × Value)} (distinct : (members.map (·.1)).Nodup)
    {field : String × Value} (known : field ∈ members) :
    onlyMember? members field.1 = some field.2 := by
  have one : members.filter (·.1 == field.1) = [field] := by
    induction members with
    | nil => cases known
    | cons member rest ih =>
        rw [List.map_cons, List.nodup_cons] at distinct
        rcases List.mem_cons.1 known with rfl | later
        · have others : rest.filter (·.1 == field.1) = [] := by
            refine List.filter_eq_nil_iff.2 fun other inRest same => distinct.1 ?_
            exact List.mem_map.2 ⟨other, inRest, eq_of_beq same⟩
          rw [List.filter_cons, if_pos (beq_self_eq_true field.1), others]
        · have apart : ¬ (member.1 == field.1) = true := fun same =>
            distinct.1 (List.mem_map.2 ⟨field, later, (eq_of_beq same).symm⟩)
          rw [List.filter_cons, if_neg apart, ih distinct.2 later]
  rw [onlyMember?, one]

/-- **Fields of a record are found, whichever of them are asked for.** -/
theorem toFields?_ofFields {fields : List (String × Value)} (wanted : List (String × Value))
    (distinct : (fields.map (·.1)).Nodup) (known : ∀ field ∈ wanted, field ∈ fields) :
    (ofFields fields).toFields? (wanted.map (·.1)) = some (wanted.map (·.2)) := by
  rw [ofFields, toFields?, toMembers?_fields, Option.bind_some, mapM_eq_some_iff,
    List.forall₂_map_left_iff, List.forall₂_map_right_iff, List.forall₂_same]
  exact fun field member => onlyMember?_of_mem distinct (known field member)

end Concordance.Json.Value
