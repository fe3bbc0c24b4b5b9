import Concordance.Json.Value
import Concordance.Proofs.Json.Literals
import Concordance.Proofs.Json.Strings

/-!
# Documents are read back

A document is written as its tokens, one behind the other with nothing in between.  Reading it
back takes two steps, each of which undoes one of writing.

* The text falls apart into the tokens again (`Value.splits_tokens`).  Only a number could run into
  what stands behind it, and behind a value there is a comma, a closing mark or the end.
* The tokens make the value again (`Value.ofTokens?_tokens`).  The reader keeps what is open in
  frames, and a value leaves the frames as it found them.

Both go through a value along its tree, items and members in turn.
-/

namespace Concordance.Json

/-! ## Tokens -/

namespace Token

/-- A token as it is written. -/
def IsWritten : Token → Prop
  | number literal => literal.IsWritten
  | string units => ∃ cs, units = unitsOfText cs
  | _ => True

variable {t : Token} {ts : List Token} {rest : List Char}

/-- A literal is not mistaken for another token. -/
lemma takeToken?_of_number {c : Char} (first : c = '-' ∨ c.isDigit = true) (rest : List Char) :
    takeToken? (c :: rest)
      = (Number.read? (c :: rest)).map fun (literal, rest) => (.number literal, rest) := by
  have code : c.toNat ≤ 57 := by
    rcases first with rfl | digit
    · decide
    · exact (Decimal.isDigit_iff.1 digit).2
  have apart : ∀ other : Char, other.isDigit = false → other ≠ '-' → c ≠ other := by
    rintro other plain minus rfl
    rcases first with rfl | digit
    · exact minus rfl
    · exact Bool.false_ne_true (plain.symm.trans digit)
  have mark : markOf? c = none := by
    rw [markOf?, if_neg (by omega), if_neg (by omega), if_neg (apart _ (by decide) (by decide)),
      if_neg (apart _ (by decide) (by decide)), if_neg (apart _ (by decide) (by decide)),
      if_neg (apart _ (by decide) (by decide))]
  have word : takeWord? (c :: rest) = none := by
    unfold takeWord?
    split
    · rename_i same
      exact absurd (List.cons.inj same).1 (apart 'n' (by decide) (by decide))
    · rename_i same
      exact absurd (List.cons.inj same).1 (apart 't' (by decide) (by decide))
    · rename_i same
      exact absurd (List.cons.inj same).1 (apart 'f' (by decide) (by decide))
    · rfl
  rw [takeToken?, mark]
  simp only [if_neg (apart '\"' (by decide) (by decide)), word]

/-- A token is taken off the text that begins with it. -/
lemma takeToken?_text (written : t.IsWritten)
    (ends : ∀ literal, t = .number literal → Number.Ends rest) :
    takeToken? (t.text ++ rest) = some (t, rest) := by
  cases t with
  | number literal =>
      obtain ⟨c, others, split, first⟩ := Number.IsWritten.text_eq_cons written
      have read := Number.read?_text written (ends literal rfl)
      rw [text, split, List.cons_append] at *
      rw [takeToken?_of_number first, read, Option.map_some]
  | string units =>
      obtain ⟨cs, rfl⟩ := written
      have read := readUnits?_unitsText cs rest
      have quoted : (string (unitsOfText cs)).text ++ rest
          = '\"' :: (unitsText (unitsOfText cs) ++ '\"' :: rest) := by
        simp only [text, List.cons_append, List.append_assoc, List.nil_append]
      rw [quoted, takeToken?, show markOf? '\"' = none by decide]
      simp only [if_true, read, Option.map_some]
  | bool value => cases value <;> rfl
  | _ => rfl

lemma text_eq_cons (written : t.IsWritten) :
    ∃ c others, t.text = c :: others ∧ isBlank c = false := by
  cases t with
  | number literal =>
      obtain ⟨c, others, split, first⟩ := Number.IsWritten.text_eq_cons written
      refine ⟨c, others, split, ?_⟩
      rcases first with rfl | digit
      · decide
      · have apart : ∀ other : Char, other.isDigit = false → (c == other) = false :=
          fun other plain => beq_eq_false_iff_ne.2 (Decimal.ne_of_isDigit digit plain)
        simp only [isBlank, apart ' ' (by decide), apart '\t' (by decide), apart '\n' (by decide),
          apart '\r' (by decide), Bool.or_self]
  | bool value => cases value <;> exact ⟨_, _, rfl, by decide⟩
  | _ => exact ⟨_, _, rfl, by decide⟩

lemma tokens?_append {cs : List Char} (first : ∃ c others, cs = c :: others ∧ isBlank c = false)
    (taken : takeToken? cs = some (t, rest)) : tokens? cs = (tokens? rest).map (t :: ·) := by
  obtain ⟨c, others, rfl, solid⟩ := first
  rw [tokens?, if_neg (by rw [solid]; decide)]
  split
  · rename_i stuck
    cases taken.symm.trans stuck
  · rename_i t' rest' taken'
    cases taken.symm.trans taken'
    rfl

/-- Whether the text of a row of tokens falls apart into them. -/
def Splits (ts : List Token) : Prop := tokens? (ts.flatMap text) = some ts

lemma splits_nil : Splits [] := by rw [Splits, List.flatMap_nil, tokens?]

/-- A token goes before a row, unless it is a number with which the row goes on. -/
lemma Splits.cons (written : t.IsWritten)
    (ends : ∀ literal, t = .number literal → Number.Ends (ts.flatMap text))
    (splits : Splits ts) : Splits (t :: ts) := by
  obtain ⟨c, others, split, solid⟩ := text_eq_cons written
  rw [Splits, List.flatMap_cons, tokens?_append ⟨c, _, by rw [split]; rfl, solid⟩
    (takeToken?_text written ends), show tokens? _ = _ from splits, Option.map_some]

/-- The marks behind a value. -/
def IsStop (t : Token) : Prop := t = .comma ∨ t = .closeBracket ∨ t = .closeBrace

lemma IsStop.ends (stop : t.IsStop) (ts : List Token) :
    Number.Ends ((t :: ts).flatMap text) := by
  rcases stop with rfl | rfl | rfl <;> (rintro c ⟨⟩; decide)

/-- A mark goes before any row. -/
lemma IsStop.splits (stop : t.IsStop) (splits : Splits ts) : Splits (t :: ts) := by
  rcases stop with rfl | rfl | rfl <;> exact splits.cons trivial (by rintro _ ⟨⟩)

end Token

/-! ## From text to tokens -/

namespace Value

open Token (Splits)

lemma itemTokens_cons_cons (v w : Value) (rest : List Value) :
    itemTokens (v :: w :: rest) = v.tokens ++ .comma :: itemTokens (w :: rest) := by
  rw [itemTokens]
  exact List.cons_ne_nil w rest

lemma memberTokens_cons_cons (key : List StringUnit) (v : Value)
    (next : List StringUnit × Value) (rest : List (List StringUnit × Value)) :
    memberTokens ((key, v) :: next :: rest)
      = .string key :: .colon :: (v.tokens ++ .comma :: memberTokens (next :: rest)) := by
  rw [memberTokens]
  · rfl
  · exact List.cons_ne_nil next rest

mutual

/-- The text of a value falls apart into its tokens, whatever stands behind. -/
theorem splits_tokens : ∀ (v : Value) {ts : List Token}, (∀ t ∈ v.tokens, t.IsWritten) →
    Number.Ends (ts.flatMap Token.text) → Splits ts → Splits (v.tokens ++ ts)
  | null, _, _, _, splits => splits.cons trivial (by rintro _ ⟨⟩)
  | bool b, _, _, _, splits => splits.cons trivial (by rintro _ ⟨⟩)
  | number literal, _, written, ends, splits =>
      splits.cons (written _ (by simp [tokens])) fun _ _ => ends
  | string units, _, written, _, splits =>
      splits.cons (written _ (by simp [tokens])) (by rintro _ ⟨⟩)
  | array items, ts, written, _, splits => by
      have stop : Token.IsStop .closeBracket := .inr (.inl rfl)
      have inner := splits_itemTokens items
        (fun t member => written t (by simp [tokens, member])) (stop.ends ts) (stop.splits splits)
      rw [tokens, List.append_assoc, List.cons_append]
      exact inner.cons trivial (by rintro _ ⟨⟩)
  | object members, ts, written, _, splits => by
      have stop : Token.IsStop .closeBrace := .inr (.inr rfl)
      have inner := splits_memberTokens members
        (fun t member => written t (by simp [tokens, member])) (stop.ends ts) (stop.splits splits)
      rw [tokens, List.append_assoc, List.cons_append]
      exact inner.cons trivial (by rintro _ ⟨⟩)

theorem splits_itemTokens : ∀ (items : List Value) {ts : List Token},
    (∀ t ∈ itemTokens items, t.IsWritten) → Number.Ends (ts.flatMap Token.text) → Splits ts →
      Splits (itemTokens items ++ ts)
  | [], _, _, _, splits => splits
  | [v], _, written, ends, splits => splits_tokens v written ends splits
  | v :: w :: rest, ts, written, ends, splits => by
      have stop : Token.IsStop .comma := .inl rfl
      have later := splits_itemTokens (w :: rest)
        (fun t member => written t (by simp [itemTokens_cons_cons, member])) ends splits
      have first := splits_tokens v
        (fun t member => written t (by simp [itemTokens_cons_cons, member])) (stop.ends _)
        (stop.splits later)
      rw [itemTokens_cons_cons, List.append_assoc, List.cons_append]
      exact first

theorem splits_memberTokens : ∀ (members : List (List StringUnit × Value)) {ts : List Token},
    (∀ t ∈ memberTokens members, t.IsWritten) → Number.Ends (ts.flatMap Token.text) →
      Splits ts → Splits (memberTokens members ++ ts)
  | [], _, _, _, splits => splits
  | [(key, v)], _, written, ends, splits => by
      have value := splits_tokens v (fun t member => written t (by simp [memberTokens, member]))
        ends splits
      have colon : Splits (.colon :: (v.tokens ++ _)) := value.cons trivial (by rintro _ ⟨⟩)
      exact colon.cons (written _ (by simp [memberTokens])) (by rintro _ ⟨⟩)
  | (key, v) :: next :: rest, ts, written, ends, splits => by
      have stop : Token.IsStop .comma := .inl rfl
      have later := splits_memberTokens (next :: rest)
        (fun t member => written t (by simp [memberTokens_cons_cons, member])) ends splits
      have value := splits_tokens v
        (fun t member => written t (by simp [memberTokens_cons_cons, member])) (stop.ends _)
        (stop.splits later)
      have colon : Splits (.colon :: (v.tokens ++ _)) := value.cons trivial (by rintro _ ⟨⟩)
      rw [memberTokens_cons_cons, List.cons_append, List.cons_append, List.append_assoc]
      exact colon.cons (written _ (by simp [memberTokens_cons_cons])) (by rintro _ ⟨⟩)

end

/-! ## From tokens to the value -/

/-- A value does not begin with the mark that would close an empty array. -/
lemma tokens_eq_cons (v : Value) : ∃ t others, v.tokens = t :: others ∧ t ≠ .closeBracket := by
  cases v with
  | array items => exact ⟨_, _, by rw [tokens]; rfl, by decide⟩
  | object members => exact ⟨_, _, by rw [tokens]; rfl, by decide⟩
  | _ => exact ⟨_, _, by rw [tokens], Token.noConfusion⟩

lemma itemTokens_eq_append (v : Value) (rest : List Value) :
    ∃ ts, itemTokens (v :: rest) = v.tokens ++ ts := by
  cases rest with
  | nil => exact ⟨[], by rw [itemTokens, List.append_nil]⟩
  | cons w rest => exact ⟨_, itemTokens_cons_cons v w rest⟩

/-- In an array that is not closed at once, the first item is read as a value. -/
lemma foldlM_firstItem (v : Value) (rest : List Value) (frames : List Frame) (ts : List Token) :
    (itemTokens (v :: rest) ++ ts).foldlM Reading.step? (.firstItem frames)
      = (itemTokens (v :: rest) ++ ts).foldlM Reading.step? (.value (.array [] :: frames)) := by
  obtain ⟨behind, row⟩ := itemTokens_eq_append v rest
  obtain ⟨t, others, split, item⟩ := v.tokens_eq_cons
  rw [row, split, List.cons_append, List.cons_append, List.foldlM_cons, List.foldlM_cons,
    Reading.step?, Reading.step?]
  exact item

/-- In an object that is not closed at once, the first key is read as any other. -/
lemma foldlM_firstKey (member : List StringUnit × Value)
    (rest : List (List StringUnit × Value)) (frames : List Frame) (ts : List Token) :
    (memberTokens (member :: rest) ++ ts).foldlM Reading.step? (.firstKey frames)
      = (memberTokens (member :: rest) ++ ts).foldlM Reading.step? (.key [] frames) := by
  cases rest <;> rfl

mutual

/-- The tokens of a value are taken as that value, and the frames stay as they are. -/
theorem foldlM_tokens : ∀ (v : Value) (frames : List Frame) (ts : List Token),
    (v.tokens ++ ts).foldlM Reading.step? (.value frames)
      = ts.foldlM Reading.step? (.behind v frames)
  | null, _, _ => rfl
  | bool _, _, _ => rfl
  | number _, _, _ => rfl
  | string _, _, _ => rfl
  | array [], _, _ => rfl
  | array (v :: rest), frames, ts => by
      have items := foldlM_itemTokens (v :: rest) (List.cons_ne_nil v rest) [] frames ts
      rw [← foldlM_firstItem] at items
      rw [tokens, List.append_assoc]
      exact items
  | object [], _, _ => rfl
  | object (member :: rest), frames, ts => by
      have members := foldlM_memberTokens (member :: rest) (List.cons_ne_nil member rest) []
        frames ts
      rw [← foldlM_firstKey] at members
      rw [tokens, List.append_assoc]
      exact members

/-- The items of an array are read behind those that are done, up to its end. -/
theorem foldlM_itemTokens : ∀ (items : List Value), items ≠ [] → ∀ (done : List Value)
    (frames : List Frame) (ts : List Token),
    (itemTokens items ++ .closeBracket :: ts).foldlM Reading.step?
        (.value (.array done :: frames))
      = ts.foldlM Reading.step? (.behind (.array (done.reverse ++ items)) frames)
  | [], nonempty, _, _, _ => absurd rfl nonempty
  | [v], _, done, frames, ts => by
      rw [itemTokens, foldlM_tokens v]
      change ts.foldlM Reading.step? (.behind (.array (v :: done).reverse) frames) = _
      rw [List.reverse_cons]
  | v :: w :: rest, _, done, frames, ts => by
      have later := foldlM_itemTokens (w :: rest) (List.cons_ne_nil w rest) (v :: done) frames ts
      rw [List.reverse_cons, List.append_assoc] at later
      rw [itemTokens_cons_cons, List.append_assoc, List.cons_append, foldlM_tokens v]
      exact later

/-- The members of an object are read behind those that are done, up to its end. -/
theorem foldlM_memberTokens : ∀ (members : List (List StringUnit × Value)), members ≠ [] →
    ∀ (done : List (List StringUnit × Value)) (frames : List Frame) (ts : List Token),
    (memberTokens members ++ .closeBrace :: ts).foldlM Reading.step? (.key done frames)
      = ts.foldlM Reading.step? (.behind (.object (done.reverse ++ members)) frames)
  | [], nonempty, _, _, _ => absurd rfl nonempty
  | [(key, v)], _, done, frames, ts => by
      change (v.tokens ++ .closeBrace :: ts).foldlM Reading.step?
        (.value (.object done key :: frames)) = _
      rw [foldlM_tokens v]
      change ts.foldlM Reading.step? (.behind (.object ((key, v) :: done).reverse) frames) = _
      rw [List.reverse_cons]
  | (key, v) :: next :: rest, _, done, frames, ts => by
      have later := foldlM_memberTokens (next :: rest) (List.cons_ne_nil next rest)
        ((key, v) :: done) frames ts
      rw [List.reverse_cons, List.append_assoc] at later
      rw [memberTokens_cons_cons, List.cons_append, List.cons_append, List.append_assoc]
      change (v.tokens ++ (.comma :: memberTokens (next :: rest) ++ .closeBrace :: ts)).foldlM
        Reading.step? (.value (.object done key :: frames)) = _
      rw [foldlM_tokens v]
      exact later

end

/-- **A value is read back from its tokens.** -/
theorem ofTokens?_tokens (v : Value) : ofTokens? v.tokens = some v := by
  have read := foldlM_tokens v [] []
  rw [List.append_nil] at read
  rw [ofTokens?, read]
  rfl

/-! ## Documents -/

/-- A value all of whose tokens are written as they should be. -/
def IsWritten (v : Value) : Prop := ∀ t ∈ v.tokens, t.IsWritten

/-- **A document is read back from its text.** -/
theorem ofText?_text {v : Value} (written : v.IsWritten) : ofText? v.text = some v := by
  have ends : Number.Ends (([] : List Token).flatMap Token.text) := by rintro _ ⟨⟩
  have splits := splits_tokens v written ends Token.splits_nil
  rw [List.append_nil] at splits
  rw [ofText?, text, show tokens? _ = _ from splits, Option.bind_some, ofTokens?_tokens]

end Value
end Concordance.Json
