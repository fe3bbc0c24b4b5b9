import Concordance.Text.Blank
import Mathlib.Tactic.Lemma

/-!
# Fields and lines are found again

A field is a text without blanks that is not empty.  Fields with single blanks between them make
up a line, and the three ways of taking a text apart undo this.

* `pieces_flatMap_append` finds the lines of a text that ends each of them.
* `words_intercalate` finds the fields of a line.
* `trim_intercalate` says that a line of fields has no blanks at its ends to lose.
-/

namespace Concordance.Text

/-! ## Pieces -/

section

variable {α : Type} {cut : α → Bool}

lemma pieces_of_forall {front : List α} (whole : ∀ a ∈ front, cut a = false) :
    pieces cut front = [front] := by
  induction front with
  | nil => rfl
  | cons a front ih =>
      obtain ⟨first, others⟩ := List.forall_mem_cons.1 whole
      rw [pieces, ih others, if_neg (by rw [first]; exact Bool.false_ne_true)]

/-- What stands before the first cut is the first piece. -/
lemma pieces_append_cons {front : List α} (whole : ∀ a ∈ front, cut a = false) {a : α}
    (cuts : cut a = true) (rest : List α) :
    pieces cut (front ++ a :: rest) = front :: pieces cut rest := by
  induction front with
  | nil => rw [List.nil_append, pieces, if_pos cuts]
  | cons b front ih =>
      obtain ⟨first, others⟩ := List.forall_mem_cons.1 whole
      rw [List.cons_append, pieces, ih others, if_neg (by rw [first]; exact Bool.false_ne_true)]

/-- A cut takes a list apart, whatever stands before it. -/
lemma pieces_append_cut {a : α} (cuts : cut a = true) (front rest : List α) :
    pieces cut (front ++ a :: rest) = pieces cut front ++ pieces cut rest := by
  induction front with
  | nil => simp only [List.nil_append, pieces, if_pos cuts, List.singleton_append]
  | cons b front ih =>
      obtain ⟨first, others, split⟩ := List.exists_cons_of_ne_nil (pieces_ne_nil cut front)
      rw [List.cons_append, pieces, pieces, ih, split, List.cons_append]
      split <;> rfl

/-- **Pieces that each end in a cut are found again**, and nothing behind the last cut. -/
theorem pieces_flatMap_append {a : α} (cuts : cut a = true) {parts : List (List α)}
    (whole : ∀ part ∈ parts, ∀ b ∈ part, cut b = false) :
    pieces cut (parts.flatMap (· ++ [a])) = parts ++ [[]] := by
  induction parts with
  | nil => rfl
  | cons part parts ih =>
      obtain ⟨first, others⟩ := List.forall_mem_cons.1 whole
      rw [List.flatMap_cons, List.append_assoc, List.singleton_append,
        pieces_append_cons first cuts, ih others, List.cons_append]

end

lemma pieces_of_not_mem {c : Char} {text : List Char} (whole : c ∉ text) :
    pieces (· == c) text = [text] := by
  refine pieces_of_forall fun a member => beq_false_of_ne ?_
  rintro rfl
  exact whole member

lemma pieces_append_char (c : Char) (front rest : List Char) :
    pieces (· == c) (front ++ c :: rest) = pieces (· == c) front ++ pieces (· == c) rest := by
  apply pieces_append_cut
  exact beq_self_eq_true c

/-- The last place of a character cuts a text in one way only. -/
lemma append_cons_inj {c : Char} {front front' last last' : List Char} (whole : c ∉ last)
    (whole' : c ∉ last') (same : front ++ c :: last = front' ++ c :: last') :
    front = front' ∧ last = last' := by
  have cut := congrArg (pieces (· == c)) same
  rw [pieces_append_char, pieces_append_char, pieces_of_not_mem whole,
    pieces_of_not_mem whole'] at cut
  obtain rfl : last = last' := by simpa using congrArg List.getLast? cut
  exact ⟨List.append_cancel_right same, rfl⟩

/-! ## Lines -/

/-- Every text is its pieces again, each with the character behind it. -/
lemma append_eq_flatMap_pieces (c : Char) (text : List Char) :
    text ++ [c] = (pieces (· == c) text).flatMap (· ++ [c]) := by
  induction text with
  | nil => rfl
  | cons a rest ih =>
      obtain ⟨first, others, split⟩ := List.exists_cons_of_ne_nil (pieces_ne_nil (· == c) rest)
      rw [pieces, List.cons_append, ih, split]
      by_cases cut : a = c
      · rw [if_pos (beq_iff_eq.2 cut), List.flatMap_cons, cut]
        rfl
      · rw [if_neg (by simpa using cut)]
        rfl

lemma not_mem_of_mem_pieces {c : Char} {text piece : List Char}
    (member : piece ∈ pieces (· == c) text) : c ∉ piece := by
  intro inside
  have kept : c ∈ (pieces (· == c) text).flatten := List.mem_flatten.2 ⟨piece, member, inside⟩
  rw [flatten_pieces, List.mem_filter] at kept
  simp at kept

lemma length_pieces (c : Char) (text : List Char) :
    (pieces (· == c) text).length = text.count c + 1 := by
  induction text with
  | nil => rfl
  | cons a rest ih =>
      obtain ⟨first, others, split⟩ := List.exists_cons_of_ne_nil (pieces_ne_nil (· == c) rest)
      rw [split] at ih
      rw [pieces, split, List.count_cons]
      by_cases cut : a = c
      · rw [if_pos (beq_iff_eq.2 cut), if_pos (beq_iff_eq.2 cut), List.length_cons, ih]
      · rw [if_neg (by simpa using cut), if_neg (by simpa using cut)]
        exact ih

/-! ## Labels -/

/-- What stands behind a label at the front of a text. -/
def behind? (label text : List Char) : Option (List Char) :=
  if label.isPrefixOf text then some (text.drop label.length) else none

lemma behind?_append (label rest : List Char) : behind? label (label ++ rest) = some rest := by
  rw [behind?, if_pos (List.isPrefixOf_iff_prefix.2 (List.prefix_append label rest)),
    List.drop_left]

/-! ## Fields -/

/-- A text that can stand between blanks. -/
structure IsField (cs : List Char) : Prop where
  nonempty : cs ≠ []
  solid : ∀ c ∈ cs, isBlank c = false

/-- A text that is known letter by letter is a field if no letter is a blank. -/
lemma isField_of_any {cs : List Char} (nonempty : cs ≠ []) (solid : cs.any isBlank = false) :
    IsField cs :=
  ⟨nonempty, fun _ member => Bool.eq_false_iff.2 (List.any_eq_false.1 solid _ member)⟩

lemma isBlank_space : isBlank ' ' = true := by decide

lemma words_append_cons {field : List Char} (h : IsField field) (rest : List Char) :
    words (field ++ ' ' :: rest) = field :: words rest := by
  rw [words, pieces_append_cons h.solid isBlank_space, List.filter_cons_of_pos, words]
  exact decide_eq_true h.nonempty

/-- **Fields with blanks between them are the words of their line.** -/
theorem words_intercalate {fields : List (List Char)} (h : ∀ field ∈ fields, IsField field) :
    words ([' '].intercalate fields) = fields := by
  induction fields with
  | nil => rfl
  | cons field rest ih =>
      obtain ⟨first, others⟩ := List.forall_mem_cons.1 h
      cases rest with
      | nil =>
          rw [List.intercalate_singleton, words, pieces_of_forall first.solid,
            List.filter_cons_of_pos, List.filter_nil]
          exact decide_eq_true first.nonempty
      | cons second rest =>
          rw [List.intercalate_cons_cons, List.append_assoc, List.singleton_append,
            words_append_cons first, ih others]

lemma intercalate_ne_nil {field : List Char} (h : IsField field) (rest : List (List Char)) :
    [' '].intercalate (field :: rest) ≠ [] := by
  cases rest with
  | nil => rw [List.intercalate_singleton]; exact h.nonempty
  | cons second rest =>
      rw [List.intercalate_cons_cons]
      exact List.append_ne_nil_of_left_ne_nil (List.append_ne_nil_of_left_ne_nil h.nonempty _) _

/-! ## Ends -/

lemma dropWhile_of_head? {cs : List Char} (solid : ∀ c ∈ cs.head?, isBlank c = false) :
    cs.dropWhile isBlank = cs := by
  cases cs with
  | nil => rfl
  | cons c rest =>
      have first : ¬ isBlank c = true := by
        rw [solid c rfl]
        exact Bool.false_ne_true
      exact List.dropWhile_cons_of_neg first

/-- A text whose ends are no blanks has none to lose. -/
lemma trim_of_ends {cs : List Char} (first : ∀ c ∈ cs.head?, isBlank c = false)
    (last : ∀ c ∈ cs.getLast?, isBlank c = false) : trim cs = cs := by
  rw [trim, dropWhile_of_head? first, dropWhile_of_head? (List.head?_reverse ▸ last),
    List.reverse_reverse]

section

variable {fields : List (List Char)} (h : ∀ field ∈ fields, IsField field)

include h

lemma isBlank_of_head?_intercalate : ∀ c ∈ ([' '].intercalate fields).head?, isBlank c = false := by
  intro c found
  cases fields with
  | nil => cases found
  | cons field rest =>
      obtain ⟨first, _⟩ := List.forall_mem_cons.1 h
      obtain ⟨front, body, rfl⟩ := List.exists_cons_of_ne_nil first.nonempty
      have same : front = c := by
        cases rest with
        | nil => exact Option.some.inj found
        | cons second rest => exact Option.some.inj found
      exact same ▸ first.solid front List.mem_cons_self

lemma isBlank_of_getLast?_intercalate :
    ∀ c ∈ ([' '].intercalate fields).getLast?, isBlank c = false := by
  induction fields with
  | nil =>
      intro c found
      cases found
  | cons field rest ih =>
      obtain ⟨first, others⟩ := List.forall_mem_cons.1 h
      intro c found
      cases rest with
      | nil =>
          rw [List.intercalate_singleton] at found
          exact first.solid c (List.mem_of_getLast? found)
      | cons second rest =>
          -- the last character belongs to what follows the blank
          have later : [' '].intercalate (second :: rest) ≠ [] :=
            intercalate_ne_nil (others second List.mem_cons_self) rest
          rw [List.intercalate_cons_cons, List.getLast?_append,
            List.getLast?_eq_some_getLast later, Option.some_or,
            ← List.getLast?_eq_some_getLast later] at found
          exact ih others c found

/-- **A line of fields has no blanks at its ends.** -/
theorem trim_intercalate : trim ([' '].intercalate fields) = [' '].intercalate fields :=
  trim_of_ends (isBlank_of_head?_intercalate h) (isBlank_of_getLast?_intercalate h)

/-- The only character of a line that is in no field is the blank between fields. -/
lemma newline_not_mem_intercalate : '\n' ∉ [' '].intercalate fields := by
  have newline : isBlank '\n' = true := by decide
  induction fields with
  | nil => exact List.not_mem_nil
  | cons field rest ih =>
      obtain ⟨first, others⟩ := List.forall_mem_cons.1 h
      have outside : '\n' ∉ field := by
        intro member
        rw [first.solid _ member] at newline
        exact Bool.false_ne_true newline
      cases rest with
      | nil => rwa [List.intercalate_singleton]
      | cons second rest =>
          rw [List.intercalate_cons_cons, List.mem_append, List.mem_append, List.mem_singleton]
          rintro ((found | found) | found)
          · exact outside found
          · exact absurd found (by decide)
          · exact ih others found

end

end Concordance.Text
