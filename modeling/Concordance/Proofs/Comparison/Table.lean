import Concordance.Comparison.Comparator
import Concordance.Proofs.Decimal.Reader
import Concordance.Scene.Basic
import Concordance.Trace.Source
import Mathlib.Data.List.Forall2

/-!
# The lines of the table of equivalences

A row ends in a composition, and a composition is any text.  All else in a row is known to be free
of newlines and blanks, so the material and the composition are read back from it.  What keeps a
binding from being one line is a newline in its composition, and nothing else.

* `readRow?` reads a row, with its labels and its padding.
* `Shows` says which lines a binding has, whatever its composition.
* `table_lines` describes all lines of a table.
* `row_imitated` is a table in which a composition looks like a binding that does not exist.
-/

namespace Concordance.Equivalences

open Text Decimal

/-! ## Rows -/

/-- Reads the material and the composition of a row. -/
def readRow? (line : List Char) : Option (MaterialId × String) :=
  (behind? "  material ".toList line).bind fun rest =>
    let rest := rest.dropWhile (· == ' ')
    (readInteger (rest.takeWhile (· != ' '))).toOption.bind fun material =>
      (behind? " @ density ".toList (rest.dropWhile (· != ' '))).bind fun rest =>
        (behind? "-> ".toList ((rest.dropWhile (· != ' ')).dropWhile (· == ' '))).map fun rest =>
          (⟨material⟩, String.ofList rest)

/-- What stands before the composition in a row. -/
def rowFront (key : EquivalenceKey) : List Char :=
  "  material ".toList ++ alignRight 6 key.material.text ++ " @ density ".toList ++
    alignLeft 12 key.density.positionalText ++ " -> ".toList

lemma rowText_eq (key : EquivalenceKey) (composition : String) :
    rowText key composition = rowFront key ++ (composition.toList ++ ['\n']) :=
  List.append_assoc (rowFront key) composition.toList ['\n']

lemma isSpace_of_mem_replicate {n : Nat} {c : Char} (member : c ∈ List.replicate n ' ') :
    (c == ' ') = true := by
  rw [List.eq_of_mem_replicate member]
  rfl

section

variable {field : List Char} (h : IsField field)

include h

lemma ne_space_of_mem_field {c : Char} (member : c ∈ field) : (c != ' ') = true := by
  refine bne_iff_ne.2 ?_
  rintro rfl
  exact absurd (h.solid ' ' member) (by decide)

lemma dropWhile_field (rest : List Char) : (field ++ rest).dropWhile (· == ' ') = field ++ rest := by
  obtain ⟨c, others, rfl⟩ := List.exists_cons_of_ne_nil h.nonempty
  have solid : ¬ (c == ' ') = true := by
    simpa using ne_space_of_mem_field h List.mem_cons_self
  exact List.dropWhile_cons_of_neg (p := (· == ' ')) solid

lemma dropWhile_alignRight (width : Nat) (rest : List Char) :
    (alignRight width field ++ rest).dropWhile (· == ' ') = field ++ rest := by
  rw [alignRight, List.append_assoc,
    List.dropWhile_append_of_pos fun _ => isSpace_of_mem_replicate, dropWhile_field h]

lemma takeWhile_field (rest : List Char) :
    (field ++ ' ' :: rest).takeWhile (· != ' ') = field := by
  rw [List.takeWhile_append_of_pos fun _ => ne_space_of_mem_field h,
    List.takeWhile_cons_of_neg (by decide), List.append_nil]

lemma dropWhile_field_space (rest : List Char) :
    (field ++ ' ' :: rest).dropWhile (· != ' ') = ' ' :: rest := by
  rw [List.dropWhile_append_of_pos fun _ => ne_space_of_mem_field h,
    List.dropWhile_cons_of_neg (by decide)]

/-- Behind a field that is filled up on the right, the blanks end where the next text begins. -/
lemma dropWhile_alignLeft (width : Nat) {c : Char} (solid : (c == ' ') = false)
    (rest : List Char) : ((alignLeft width field ++ ' ' :: c :: rest).dropWhile
      (· != ' ')).dropWhile (· == ' ') = c :: rest := by
  have stops : ¬ (c == ' ') = true := by
    rw [solid]
    exact Bool.false_ne_true
  have filled : ∀ n : Nat, List.replicate n ' ' ++ ' ' :: c :: rest
      = ' ' :: (List.replicate n ' ' ++ c :: rest) := by
    intro n
    rw [← List.cons_append, ← List.replicate_succ, List.replicate_succ', List.append_assoc]
    rfl
  rw [alignLeft, List.append_assoc, filled, dropWhile_field_space h,
    List.dropWhile_cons_of_pos (by rfl),
    List.dropWhile_append_of_pos fun _ => isSpace_of_mem_replicate]
  exact List.dropWhile_cons_of_neg (p := (· == ' ')) stops

end

/-- **A row is read back**, whatever follows its arrow. -/
theorem readRow?_rowFront (key : EquivalenceKey) (text : List Char) :
    readRow? (rowFront key ++ text) = some (key.material, String.ofList text) := by
  have material : IsField key.material.text := isField_intText _
  have density : IsField key.density.positionalText := Binary64.isField_positionalText _
  have label : ∀ rest : List Char, " @ density ".toList ++ rest = ' ' :: ("@ density ".toList ++ rest) :=
    fun rest => rfl
  have arrow : " -> ".toList ++ text = ' ' :: '-' :: ("> ".toList ++ text) := rfl
  have read : readInteger key.material.text = .ok key.material.value := readInteger_intText _
  delta readRow? rowFront
  simp only [List.append_assoc, behind?_append, Option.bind_some]
  rw [dropWhile_alignRight material, label, takeWhile_field material, read,
    dropWhile_field_space material, ← label, behind?_append, arrow]
  simp only [Except.toOption, Option.bind_some]
  rw [dropWhile_alignLeft density _ (by decide)]
  exact congrArg (Option.map _) (behind?_append "-> ".toList text)

lemma subset_of_behind? {label text rest : List Char} (h : behind? label text = some rest) :
    rest ⊆ text := by
  rw [behind?] at h
  split at h
  · cases h
    exact List.drop_subset _ _
  · cases h

/-- What is read as a composition stands in the row. -/
lemma subset_of_readRow? {line : List Char} {material : MaterialId} {composition : String}
    (h : readRow? line = some (material, composition)) : composition.toList ⊆ line := by
  delta readRow? at h
  simp only [Option.bind_eq_some_iff, Option.map_eq_some_iff, Prod.mk.injEq] at h
  obtain ⟨first, labelled, number, _, second, middle, last, arrow, _, rfl⟩ := h
  rw [String.toList_ofList]
  calc last ⊆ _ := subset_of_behind? arrow
    _ ⊆ second := fun _ member => List.dropWhile_subset _ (List.dropWhile_subset _ member)
    _ ⊆ _ := subset_of_behind? middle
    _ ⊆ first := fun _ member => List.dropWhile_subset _ (List.dropWhile_subset _ member)
    _ ⊆ line := subset_of_behind? labelled

lemma newline_not_mem_rowFront (key : EquivalenceKey) : '\n' ∉ rowFront key := by
  have field : ∀ {text : List Char}, IsField text → '\n' ∉ text := fun solid member =>
    absurd (solid.solid _ member) (by decide)
  have filling : ∀ n : Nat, '\n' ∉ List.replicate n ' ' := fun n member =>
    absurd (List.eq_of_mem_replicate member) (by decide)
  delta rowFront
  simp only [alignRight, alignLeft, List.mem_append, not_or]
  exact ⟨⟨⟨⟨by decide, filling _, field (isField_intText _)⟩, by decide⟩,
    field (Binary64.isField_positionalText _), filling _⟩, by decide⟩

/-! ## Lines -/

/-- The lines of a binding: a row with the composition up to its first newline, and then the
lines that the composition has behind it. -/
def Shows (entry : EquivalenceKey × String) (lines : List (List Char)) : Prop :=
  ∃ row first later, lines = row :: later ∧
    pieces (· == '\n') entry.2.toList = first :: later ∧
    readRow? row = some (entry.1.material, String.ofList first)

/-- The heading without its newline. -/
def headingLine (size : Nat) : List Char :=
  "Learned equivalences (".toList ++ natText size ++ "):".toList

/-- A text is a heading with the number of bindings, and behind it the lines of each binding in
key order. -/
structure IsTableOf (text : List Char) (map : Equivalences) (shown : List (List (List Char))) :
    Prop where
  text_eq : text = (headingLine map.size :: shown.flatten).flatMap (· ++ ['\n'])
  whole : ∀ line ∈ headingLine map.size :: shown.flatten, '\n' ∉ line
  shows : List.Forall₂ Shows map.entries shown

/-- Behind the heading there is one line for each binding, in key order, and the material and the
composition of the binding are read from it. -/
def OneLineEach (map : Equivalences) : Prop :=
  ∃ rows, map.table = (headingLine map.size :: rows).flatMap (· ++ ['\n']) ∧
    (∀ row ∈ rows, '\n' ∉ row) ∧
    List.Forall₂ (fun entry row => readRow? row = some (entry.1.material, entry.2)) map.entries rows

/-- The lines of a binding. -/
def linesOf (entry : EquivalenceKey × String) : List (List Char) :=
  match pieces (· == '\n') entry.2.toList with
  | [] => []
  | first :: later => (rowFront entry.1 ++ first) :: later

lemma shows_linesOf (entry : EquivalenceKey × String) : Shows entry (linesOf entry) := by
  obtain ⟨first, later, split⟩ :=
    List.exists_cons_of_ne_nil (pieces_ne_nil (· == '\n') entry.2.toList)
  refine ⟨rowFront entry.1 ++ first, first, later, ?_, split, readRow?_rowFront _ _⟩
  rw [linesOf, split]

lemma rowText_eq_flatMap (entry : EquivalenceKey × String) :
    rowText entry.1 entry.2 = (linesOf entry).flatMap (· ++ ['\n']) := by
  obtain ⟨first, later, split⟩ :=
    List.exists_cons_of_ne_nil (pieces_ne_nil (· == '\n') entry.2.toList)
  rw [rowText_eq, append_eq_flatMap_pieces, linesOf, split]
  simp only [List.flatMap_cons, List.append_assoc]

lemma newline_not_mem_linesOf (entry : EquivalenceKey × String) :
    ∀ line ∈ linesOf entry, '\n' ∉ line := by
  have whole : ∀ piece ∈ pieces (· == '\n') entry.2.toList, '\n' ∉ piece :=
    fun piece => not_mem_of_mem_pieces
  obtain ⟨first, later, split⟩ :=
    List.exists_cons_of_ne_nil (pieces_ne_nil (· == '\n') entry.2.toList)
  rw [split] at whole
  obtain ⟨front, others⟩ := List.forall_mem_cons.1 whole
  rw [linesOf, split]
  refine List.forall_mem_cons.2 ⟨?_, others⟩
  rw [List.mem_append, not_or]
  exact ⟨newline_not_mem_rowFront _, front⟩

lemma headingText_eq (size : Nat) : headingText size = headingLine size ++ ['\n'] := by
  have last : "):\n".toList = "):".toList ++ ['\n'] := by decide
  delta headingText headingLine
  rw [last, List.append_assoc, List.append_assoc, List.append_assoc]

lemma newline_not_mem_headingLine (size : Nat) : '\n' ∉ headingLine size := by
  delta headingLine
  simp only [List.mem_append, not_or]
  refine ⟨⟨by decide, fun member => ?_⟩, by decide⟩
  exact absurd (isDigit_of_mem_natText member) (by decide)

/-- **Every table is the table of its bindings**, whatever the compositions. -/
theorem isTableOf_table (map : Equivalences) : IsTableOf map.table map (map.entries.map linesOf) where
  text_eq := by
    rw [table, headingText_eq, List.flatMap_cons]
    congr 1
    rw [← List.flatMap_def, List.flatMap_assoc]
    exact List.flatMap_congr fun entry _ => rowText_eq_flatMap entry
  whole := by
    refine List.forall_mem_cons.2 ⟨newline_not_mem_headingLine _, fun line member => ?_⟩
    obtain ⟨lines, shown, inside⟩ := List.mem_flatten.1 member
    obtain ⟨entry, _, rfl⟩ := List.mem_map.1 shown
    exact newline_not_mem_linesOf entry line inside
  shows := by
    rw [List.forall₂_map_right_iff, List.forall₂_same]
    exact fun entry _ => shows_linesOf entry

lemma linesOf_of_whole {entry : EquivalenceKey × String} (whole : '\n' ∉ entry.2.toList) :
    linesOf entry = [rowFront entry.1 ++ entry.2.toList] := by
  rw [linesOf, pieces_of_not_mem whole]

/-- **Each binding has one line exactly if no composition holds a newline.** -/
theorem oneLineEach_iff (map : Equivalences) :
    OneLineEach map ↔ ∀ entry ∈ map.entries, '\n' ∉ entry.2.toList := by
  constructor
  · rintro ⟨rows, -, whole, read⟩
    generalize map.entries = entries at read ⊢
    induction read with
    | nil => exact fun _ member => absurd member List.not_mem_nil
    | cons first _ ih =>
        obtain ⟨front, others⟩ := List.forall_mem_cons.1 whole
        exact List.forall_mem_cons.2
          ⟨fun inside => front (subset_of_readRow? first inside), ih others⟩
  · intro whole
    have table := isTableOf_table map
    have rows : (map.entries.map linesOf).flatten
        = map.entries.map fun entry => rowFront entry.1 ++ entry.2.toList := by
      rw [← List.flatMap_def, List.map_eq_flatMap]
      exact List.flatMap_congr fun entry member => linesOf_of_whole (whole entry member)
    refine ⟨_, rows ▸ table.text_eq, rows ▸ (List.forall_mem_cons.1 table.whole).2, ?_⟩
    rw [List.forall₂_map_right_iff, List.forall₂_same]
    intro entry _
    rw [readRow?_rowFront, String.ofList_toList]

lemma length_linesOf (entry : EquivalenceKey × String) :
    (linesOf entry).length = entry.2.toList.count '\n' + 1 := by
  have length := length_pieces '\n' entry.2.toList
  obtain ⟨first, later, split⟩ :=
    List.exists_cons_of_ne_nil (pieces_ne_nil (· == '\n') entry.2.toList)
  rw [split] at length
  rw [linesOf, split]
  exact length

lemma count_flatMap_append {c : Char} {lines : List (List Char)} (whole : ∀ line ∈ lines, c ∉ line) :
    (lines.flatMap (· ++ [c])).count c = lines.length := by
  induction lines with
  | nil => rfl
  | cons line lines ih =>
      obtain ⟨first, others⟩ := List.forall_mem_cons.1 whole
      rw [List.flatMap_cons, List.count_append, List.count_append, List.count_eq_zero_of_not_mem first,
        List.count_singleton_self, ih others, List.length_cons]
      omega

/-- **The newlines of the compositions are lines of the table**, besides one line for each
binding. -/
theorem count_newline_table (map : Equivalences) : map.table.count '\n'
    = map.size + 1 + (map.entries.map fun entry => entry.2.toList.count '\n').sum := by
  have table := isTableOf_table map
  have lengths : ∀ entries : List (EquivalenceKey × String), (entries.map linesOf).flatten.length
      = entries.length + (entries.map fun entry => entry.2.toList.count '\n').sum := by
    intro entries
    induction entries with
    | nil => rfl
    | cons entry entries ih =>
        simp only [List.map_cons, List.flatten_cons, List.length_append, ih, length_linesOf,
          List.length_cons, List.sum_cons]
        omega
  rw [table.text_eq, count_flatMap_append table.whole, List.length_cons, lengths, OrderedMap.size]
  omega

/-! ## All tables -/

/-- **What the table of any bindings shows.**  Behind the heading, the lines of each binding follow
in key order, the first of them a row; a composition has a line more for each newline in it.  So
each binding has one line, from which its material and its composition are read, exactly if no
composition holds a newline. -/
theorem table_lines (map : Equivalences) :
    (∃ shown, IsTableOf map.table map shown) ∧
      map.table.count '\n'
        = map.size + 1 + (map.entries.map fun entry => entry.2.toList.count '\n').sum ∧
      (OneLineEach map ↔ ∀ entry ∈ map.entries, '\n' ∉ entry.2.toList) :=
  ⟨⟨_, isTableOf_table map⟩, count_newline_table map, oneLineEach_iff map⟩

/-- A composition may look like a binding: the one point of this trace has material 1, and the
table has a row of material 2. -/
theorem row_imitated :
    let composition := "A\n  material      2 @ density 0            -> B"
    let scene : Scene :=
      ⟨[⟨⟨0⟩, composition, .sphere ⟨.zero, .zero, .zero⟩ (.ofInt 1)⟩], by decide +kernel⟩
    let run := runComparison scene.resolver scene.namer .standard
      (MemoryTrace.ofPoints [⟨⟨.zero, .zero, .zero⟩, ⟨1⟩, .zero, 0⟩])
    run.result = .ok 1 ∧ run.comparator.equivalences.size = 1 ∧
      ¬ OneLineEach run.comparator.equivalences ∧ ∃ first second,
        run.comparator.equivalences.table
          = [headingLine 1, first, second].flatMap (· ++ ['\n']) ∧
        readRow? first = some (⟨1⟩, "A") ∧ readRow? second = some (⟨2⟩, "B") := by
  intro composition scene run
  have entries : run.comparator.equivalences.entries = [(.of ⟨1⟩ .zero, composition)] := by
    decide +kernel
  refine ⟨by decide +kernel, ?_, ?_, "  material      1 @ density 0            -> A".toList,
    "  material      2 @ density 0            -> B".toList, ?_, by decide +kernel, by decide +kernel⟩
  · rw [OrderedMap.size, entries]
    rfl
  · rw [oneLineEach_iff, entries]
    exact fun whole => whole _ List.mem_cons_self (by decide +kernel)
  · rw [table, OrderedMap.size, entries]
    decide +kernel

end Concordance.Equivalences
