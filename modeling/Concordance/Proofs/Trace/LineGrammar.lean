import Concordance.Proofs.Decimal.Grammar
import Concordance.Proofs.Text.Fields
import Concordance.Proofs.Text.Utf8
import Concordance.Trace.Lines

/-!
# The lines and records of text traces

A text trace is any list of bytes.  Its lines are cut at the newline bytes; blank lines and
comments are skipped, and the lines that are left are the telling ones.  The fields of a telling
line make a record or a fault.

The grammar is stated without the reader, as relations between bytes, lines, fields and records.

* `CutInto` and `IsSkipped` say what the lines are and which of them are skipped; `cutInto_iff`
  and `ofBytes_eq_skipped_iff` tie them to the reader.
* `RecordTells` says what fields stand for.  It blames the first bad field in `readingOrder`, and
  `readFields_eq_iff` says that the reader does so too.
-/

namespace Concordance.Trace

open Text

/-! ## Lines -/

/-- Bytes and their lines: each ends at a newline byte, and bytes behind the last newline are a
line too. -/
inductive CutInto : List UInt8 → List (List UInt8) → Prop
  | nil : CutInto [] []
  | last {line : List UInt8} (nonempty : line ≠ []) (whole : (10 : UInt8) ∉ line) :
      CutInto line [line]
  | cons {line rest : List UInt8} {lines : List (List UInt8)} (whole : (10 : UInt8) ∉ line)
      (later : CutInto rest lines) : CutInto (line ++ 10 :: rest) (line :: lines)

lemma uncut {line : List UInt8} (whole : (10 : UInt8) ∉ line) : ∀ b ∈ line, (b == 10) = false := by
  intro b member
  refine beq_false_of_ne ?_
  rintro rfl
  exact whole member

lemma linesOfBytes_of_last {line : List UInt8} (nonempty : line ≠ [])
    (whole : (10 : UInt8) ∉ line) : linesOfBytes line = [line] := by
  have other : [line].getLast? ≠ some [] := fun same => nonempty (Option.some.inj same)
  simp only [linesOfBytes, pieces_of_forall (uncut whole)]
  rw [if_neg other]

lemma linesOfBytes_append_cons {line : List UInt8} (whole : (10 : UInt8) ∉ line)
    (rest : List UInt8) : linesOfBytes (line ++ 10 :: rest) = line :: linesOfBytes rest := by
  obtain ⟨first, others, split⟩ := List.exists_cons_of_ne_nil (pieces_ne_nil (· == 10) rest)
  have newline : ((10 : UInt8) == 10) = true := by decide
  simp only [linesOfBytes, pieces_append_cons (uncut whole) newline]
  rw [split, List.getLast?_cons_cons, List.dropLast_cons_cons, apply_ite (line :: ·)]

/-- **Bytes have exactly one list of lines.** -/
theorem cutInto_iff {bytes : List UInt8} {lines : List (List UInt8)} :
    CutInto bytes lines ↔ linesOfBytes bytes = lines := by
  constructor
  · intro h
    induction h with
    | nil => rfl
    | last nonempty whole => exact linesOfBytes_of_last nonempty whole
    | cons whole _ ih => rw [linesOfBytes_append_cons whole, ih]
  · rintro rfl
    -- the rest behind the first newline is shorter, so the induction is on the length
    induction size : bytes.length using Nat.strongRecOn generalizing bytes with
    | ind n ih =>
        by_cases newline : (10 : UInt8) ∈ bytes
        · obtain ⟨line, rest, rfl, whole⟩ := List.eq_append_cons_of_mem newline
          have shorter : rest.length < n := by
            rw [← size, List.length_append, List.length_cons]
            omega
          rw [linesOfBytes_append_cons whole]
          exact .cons whole (ih _ shorter rfl)
        · by_cases empty : bytes = []
          · subst empty
            exact .nil
          · rw [linesOfBytes_of_last empty newline]
            exact .last empty newline

/-- A blank line or a comment. -/
def IsSkipped (line : List UInt8) : Prop :=
  ∃ cs, line = Utf8.encode cs ∧ (trim cs = [] ∨ (trim cs).head? = some '#')

lemma ofBytes_encode (cs : List Char) : TraceLine.ofBytes (Utf8.encode cs) =
    if trim cs = [] ∨ (trim cs).head? = some '#' then .skipped else .data (trim cs) := by
  rw [TraceLine.ofBytes, Utf8.decode?_encode]
  rcases trimmed : trim cs with _ | ⟨c, rest⟩
  · simp only [trimmed]
    rfl
  · simp only [trimmed, List.cons_ne_nil, false_or, List.head?_cons, Option.some.injEq]

lemma decode?_of_noText {line : List UInt8} (noText : ∀ cs, line ≠ Utf8.encode cs) :
    Utf8.decode? line = none :=
  Option.eq_none_iff_forall_ne_some.2 fun cs found => noText cs (Utf8.decode?_eq_some_iff.1 found)

lemma ofBytes_of_noText {line : List UInt8} (noText : ∀ cs, line ≠ Utf8.encode cs) :
    TraceLine.ofBytes line = .unreadable := by
  rw [TraceLine.ofBytes, decode?_of_noText noText]

/-- The three kinds of lines. -/
lemma ofBytes_cases (line : List UInt8) :
    (TraceLine.ofBytes line = .unreadable ∧ ∀ cs, line ≠ Utf8.encode cs) ∨
    (TraceLine.ofBytes line = .skipped ∧ IsSkipped line) ∨
    ∃ cs, line = Utf8.encode cs ∧ ¬ IsSkipped line ∧ TraceLine.ofBytes line = .data (trim cs) := by
  by_cases text : ∃ cs, line = Utf8.encode cs
  · obtain ⟨cs, rfl⟩ := text
    have kind := ofBytes_encode cs
    split at kind
    · rename_i skipped
      exact .inr (.inl ⟨kind, cs, rfl, skipped⟩)
    · rename_i telling
      refine .inr (.inr ⟨cs, rfl, ?_, kind⟩)
      rintro ⟨ds, same, skipped⟩
      exact telling (Utf8.encode_injective same ▸ skipped)
  · have noText : ∀ cs, line ≠ Utf8.encode cs := fun cs same => text ⟨cs, same⟩
    exact .inl ⟨ofBytes_of_noText noText, noText⟩

lemma ofBytes_eq_skipped_iff {line : List UInt8} :
    TraceLine.ofBytes line = .skipped ↔ IsSkipped line := by
  constructor
  · intro skipped
    rcases ofBytes_cases line with ⟨kind, _⟩ | ⟨_, h⟩ | ⟨cs, _, _, kind⟩
    · rw [kind] at skipped
      cases skipped
    · exact h
    · rw [kind] at skipped
      cases skipped
  · rintro ⟨cs, rfl, skipped⟩
    rw [ofBytes_encode, if_pos skipped]

instance (line : List UInt8) : Decidable (IsSkipped line) :=
  decidable_of_iff _ ofBytes_eq_skipped_iff

/-- The lines that are not skipped. -/
def telling (lines : List (List UInt8)) : List (List UInt8) :=
  lines.filter fun line => ¬ IsSkipped line

/-! ## Records -/

/-- What a field of a record holds. -/
inductive FieldKind where
  | integer
  | float

/-- The fields of a record, counted from one, in the order in which they are read: the rank is in
front and read last. -/
def readingOrder : List (Nat × FieldKind) :=
  [(2, .float), (3, .float), (4, .float), (5, .integer), (6, .float), (1, .integer)]

/-- A text that a field of a kind can hold. -/
def FieldKind.Accepts : FieldKind → List Char → Prop
  | .integer, text => ∃ i, IntegerText text i
  | .float, text => ∃ x, Binary64.FloatText text x

/-- The fault that names a bad field. -/
inductive Names : FieldKind → Nat → List Char → RecordFault → Prop
  | integer {field : Nat} {text : List Char} {fault : IntegerFault}
      (refused : readInteger text = .error fault) :
      Names .integer field text (.badInteger field text fault)
  | float {field : Nat} {text : List Char} : Names .float field text (.badFloat field text)

/-- The fields up to a place of the reading order hold what they should. -/
def GoodUpTo (fields : List (List Char)) (place : Nat) : Prop :=
  ∀ field kind, (field, kind) ∈ readingOrder.take place →
    ∃ text, fields[field - 1]? = some text ∧ kind.Accepts text

/-- The fields of a line, and the point that they make or the fault that they are blamed for. -/
inductive RecordTells : List (List Char) → Except RecordFault SampledPoint → Prop
  | count {fields : List (List Char)} (other : fields.length ≠ 6) :
      RecordTells fields (.error (.fieldCount fields.length))
  | point {rank x y z material density : List Char} {p : SampledPoint}
      (rank_text : IntegerText rank p.rank) (x_text : Binary64.FloatText x p.position.x)
      (y_text : Binary64.FloatText y p.position.y) (z_text : Binary64.FloatText z p.position.z)
      (material_text : IntegerText material p.material.value)
      (density_text : Binary64.FloatText density p.density) :
      RecordTells [rank, x, y, z, material, density] (.ok p)
  | bad {fields : List (List Char)} {place field : Nat} {kind : FieldKind} {text : List Char}
      {fault : RecordFault} (six : fields.length = 6)
      (next : readingOrder[place]? = some (field, kind)) (good : GoodUpTo fields place)
      (found : fields[field - 1]? = some text) (refused : ¬ kind.Accepts text)
      (named : Names kind field text fault) :
      RecordTells fields (.error fault)

lemma goodUpTo_zero (fields : List (List Char)) : GoodUpTo fields 0 := by
  intro field kind member
  exact absurd member List.not_mem_nil

lemma GoodUpTo.succ {fields : List (List Char)} {place field : Nat} {kind : FieldKind}
    {text : List Char} (good : GoodUpTo fields place)
    (next : readingOrder[place]? = some (field, kind)) (found : fields[field - 1]? = some text)
    (accepted : kind.Accepts text) : GoodUpTo fields (place + 1) := by
  intro other otherKind member
  rw [List.take_add_one, next, List.mem_append] at member
  rcases member with earlier | last
  · exact good other otherKind earlier
  · cases List.mem_singleton.1 last
    exact ⟨text, found, accepted⟩

lemma readIntegerField_cases (field : Nat) (text : List Char) :
    (∃ i, readIntegerField field text = .ok i ∧ IntegerText text i) ∨
    ∃ fault, readIntegerField field text = .error fault ∧ Names .integer field text fault ∧
      ¬ FieldKind.integer.Accepts text := by
  rw [readIntegerField]
  cases read : readInteger text with
  | ok i => exact .inl ⟨i, rfl, readInteger_eq_ok_iff.1 read⟩
  | error fault =>
      refine .inr ⟨_, rfl, .integer read, ?_⟩
      rintro ⟨i, accepted⟩
      rw [readInteger_eq_ok_iff.2 accepted] at read
      cases read

lemma readFloatField_cases (field : Nat) (text : List Char) :
    (∃ x, readFloatField field text = .ok x ∧ Binary64.FloatText text x) ∨
    ∃ fault, readFloatField field text = .error fault ∧ Names .float field text fault ∧
      ¬ FieldKind.float.Accepts text := by
  rw [readFloatField]
  cases read : Binary64.ofText? text with
  | some x => exact .inl ⟨x, rfl, Binary64.ofText?_eq_some_iff.1 read⟩
  | none =>
      refine .inr ⟨_, rfl, .float, ?_⟩
      rintro ⟨x, accepted⟩
      rw [Binary64.ofText?_eq_some_iff.2 accepted] at read
      cases read

/-- Six fields are read one after the other, and the first bad one is named. -/
lemma recordTells_six (rank x y z material density : List Char) :
    RecordTells [rank, x, y, z, material, density]
      (readFields [rank, x, y, z, material, density]) := by
  have start := goodUpTo_zero [rank, x, y, z, material, density]
  rw [readFields]
  rcases readFloatField_cases 2 x with ⟨px, read, x_text⟩ | ⟨fault, read, named, refused⟩ <;>
    rw [read]
  swap
  · exact .bad rfl rfl start rfl refused named
  have one := start.succ rfl rfl ⟨px, x_text⟩
  rcases readFloatField_cases 3 y with ⟨py, read, y_text⟩ | ⟨fault, read, named, refused⟩ <;>
    rw [read]
  swap
  · exact .bad rfl rfl one rfl refused named
  have two := one.succ rfl rfl ⟨py, y_text⟩
  rcases readFloatField_cases 4 z with ⟨pz, read, z_text⟩ | ⟨fault, read, named, refused⟩ <;>
    rw [read]
  swap
  · exact .bad rfl rfl two rfl refused named
  have three := two.succ rfl rfl ⟨pz, z_text⟩
  rcases readIntegerField_cases 5 material with ⟨m, read, material_text⟩ |
    ⟨fault, read, named, refused⟩ <;> rw [read]
  swap
  · exact .bad rfl rfl three rfl refused named
  have four := three.succ rfl rfl ⟨m, material_text⟩
  rcases readFloatField_cases 6 density with ⟨d, read, density_text⟩ |
    ⟨fault, read, named, refused⟩ <;> rw [read]
  swap
  · exact .bad rfl rfl four rfl refused named
  have five := four.succ rfl rfl ⟨d, density_text⟩
  rcases readIntegerField_cases 1 rank with ⟨r, read, rank_text⟩ | ⟨fault, read, named, refused⟩ <;>
    rw [read]
  swap
  · exact .bad rfl rfl five rfl refused named
  exact .point rank_text x_text y_text z_text material_text density_text

lemma readFields_of_length {fields : List (List Char)} (other : fields.length ≠ 6) :
    readFields fields = .error (.fieldCount fields.length) := by
  unfold readFields
  split
  · exact absurd rfl other
  · rfl

/-- Every line of fields is read as a record or blamed. -/
theorem recordTells_readFields (fields : List (List Char)) :
    RecordTells fields (readFields fields) := by
  by_cases six : fields.length = 6
  · match fields, six with
    | [rank, x, y, z, material, density], _ => exact recordTells_six rank x y z material density
  · rw [readFields_of_length six]
    exact .count six

/-! ## Readings are unique -/

lemma Names.unique {kind : FieldKind} {field : Nat} {text : List Char} {fault fault' : RecordFault}
    (h : Names kind field text fault) (h' : Names kind field text fault') : fault = fault' := by
  cases h with
  | integer refused =>
      cases h' with
      | integer refused' =>
          rw [refused] at refused'
          rw [Except.error.inj refused']
  | float =>
      cases h'
      rfl

/-- A field before the one that is blamed is not bad. -/
lemma GoodUpTo.le {fields : List (List Char)} {place place' field : Nat} {kind : FieldKind}
    {text : List Char} (good : GoodUpTo fields place')
    (next : readingOrder[place]? = some (field, kind)) (found : fields[field - 1]? = some text)
    (refused : ¬ kind.Accepts text) : place' ≤ place := by
  refine Nat.le_of_not_lt fun earlier => ?_
  have member : (field, kind) ∈ readingOrder.take place' := by
    refine List.mem_of_getElem? (i := place) ?_
    rw [List.getElem?_take_of_lt earlier, next]
  obtain ⟨text', found', accepted⟩ := good field kind member
  rw [found, Option.some.injEq] at found'
  exact refused (found' ▸ accepted)

lemma readFields_of_texts {rank x y z material density : List Char} {p : SampledPoint}
    (rank_text : IntegerText rank p.rank) (x_text : Binary64.FloatText x p.position.x)
    (y_text : Binary64.FloatText y p.position.y) (z_text : Binary64.FloatText z p.position.z)
    (material_text : IntegerText material p.material.value)
    (density_text : Binary64.FloatText density p.density) :
    readFields [rank, x, y, z, material, density] = .ok p := by
  simp only [readFields, readFloatField, readIntegerField, Binary64.ofText?_eq_some_iff.2 x_text,
    Binary64.ofText?_eq_some_iff.2 y_text, Binary64.ofText?_eq_some_iff.2 z_text,
    readInteger_eq_ok_iff.2 material_text, Binary64.ofText?_eq_some_iff.2 density_text,
    readInteger_eq_ok_iff.2 rank_text]
  rfl

lemma goodUpTo_of_ok {fields : List (List Char)} {p : SampledPoint}
    (h : RecordTells fields (.ok p)) : GoodUpTo fields 6 := by
  cases h with
  | @point rank x y z material density _ rank_text x_text y_text z_text material_text
      density_text =>
      have three := (((goodUpTo_zero [rank, x, y, z, material, density]).succ rfl rfl
        ⟨_, x_text⟩).succ rfl rfl ⟨_, y_text⟩).succ rfl rfl ⟨_, z_text⟩
      exact ((three.succ rfl rfl ⟨_, material_text⟩).succ rfl rfl ⟨_, density_text⟩).succ rfl rfl
        ⟨_, rank_text⟩

/-- **A record tells one thing**, and it is what the reader reads. -/
theorem readFields_eq_iff {fields : List (List Char)} {r : Except RecordFault SampledPoint} :
    readFields fields = r ↔ RecordTells fields r := by
  constructor
  · rintro rfl
    exact recordTells_readFields fields
  · intro h
    cases h with
    | count other => exact readFields_of_length other
    | point rank_text x_text y_text z_text material_text density_text =>
        exact readFields_of_texts rank_text x_text y_text z_text material_text density_text
    | @bad _ place field kind text fault six next good found refused named =>
        have told := recordTells_readFields fields
        have inside : place < 6 := (List.getElem?_eq_some_iff.1 next).1
        cases result : readFields fields with
        | ok p =>
            rw [result] at told
            have := (goodUpTo_of_ok told).le next found refused
            omega
        | error fault' =>
            rw [result] at told
            cases told with
            | count other => exact absurd six other
            | bad _ next' good' found' refused' named' =>
                obtain rfl := Nat.le_antisymm (good'.le next found refused)
                  (good.le next' found' refused')
                cases next.symm.trans next'
                cases found.symm.trans found'
                rw [named.unique named']

end Concordance.Trace
