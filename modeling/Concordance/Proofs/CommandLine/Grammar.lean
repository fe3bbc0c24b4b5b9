import Concordance.CommandLine.Arguments
import Mathlib.Data.List.TakeWhile
import Mathlib.Tactic.Lemma

/-!
# What a command line says

A command line says a list of items, in the order of its arguments.  The rules of `Reads` do not
look at what an item does, or whether it may stand where it stands: they say only which arguments
are flags, which are options or their values, and which are operands.

* `Clusters` reads the letters behind one hyphen, and `Names` a name behind two.  Either may leave
  an option at its end that still needs its value.
* `Reads` reads the arguments.  An option that still needs its value takes the next argument:
  those that take hyphens take any, the base name only one that is `IsPlain`.
* `Reads.unique` says that a command line can be read in one way only, and `Reads.split` that an
  option with its value parts it in two that are read on their own.
-/

namespace Concordance.CommandLine

/-- What a command line holds. -/
inductive Item where
  | flag (flag : Flag)
  | setting (setting : Setting) (value : List Char)
  | operand (text : List Char)
  deriving DecidableEq, Repr

/-! ## One argument -/

/-- Letters behind one hyphen say items, and may leave an option that still needs its value. -/
inductive Clusters : List Char → List Item → Option Setting → Prop
  | nil : Clusters [] [] none
  | flag {letter : Char} {flag : Flag} {rest : List Char} {items : List Item}
      {needy : Option Setting} (known : Switch.ofLetter? letter = some (.flag flag))
      (behind : Clusters rest items needy) : Clusters (letter :: rest) (.flag flag :: items) needy
  | bare {letter : Char} {setting : Setting}
      (known : Switch.ofLetter? letter = some (.setting setting)) :
      Clusters [letter] [] (some setting)
  | equals {letter : Char} {setting : Setting} {value : List Char}
      (known : Switch.ofLetter? letter = some (.setting setting)) :
      Clusters (letter :: '=' :: value) [.setting setting value] none
  | glued {letter first : Char} {setting : Setting} {value : List Char}
      (known : Switch.ofLetter? letter = some (.setting setting)) (other : first ≠ '=') :
      Clusters (letter :: first :: value) [.setting setting (first :: value)] none

/-- A text behind two hyphens says items, and may leave an option that still needs its value. -/
inductive Names : List Char → List Item → Option Setting → Prop
  | flag {name : List Char} {flag : Flag} (known : Switch.ofName? name = some (.flag flag)) :
      Names name [.flag flag] none
  | bare {name : List Char} {setting : Setting}
      (known : Switch.ofName? name = some (.setting setting)) : Names name [] (some setting)
  | equals {name value : List Char} {setting : Setting}
      (known : Switch.ofName? name = some (.setting setting)) :
      Names (name ++ '=' :: value) [.setting setting value] none

/-- An argument with options says items, and may leave an option that still needs its value. -/
inductive Spells : List Char → List Item → Option Setting → Prop
  | long {text : List Char} {items : List Item} {needy : Option Setting}
      (names : Names text items needy) : Spells ('-' :: '-' :: text) items needy
  | letters {letter : Char} {rest : List Char} {items : List Item} {needy : Option Setting}
      (clusters : Clusters (letter :: rest) items needy) :
      Spells ('-' :: letter :: rest) items needy

/-- The argument is no option, and not the argument behind which all are operands. -/
def IsPlain (arg : List Char) : Prop := arg.head? = some '-' → arg = ['-']

lemma exists_of_not_isPlain {arg : List Char} (h : ¬ IsPlain arg) :
    ∃ letter rest, arg = '-' :: letter :: rest := by
  obtain ⟨head, more⟩ := Classical.not_imp.1 h
  obtain ⟨rest, rfl⟩ := List.head?_eq_some_iff.1 head
  cases rest with
  | nil => exact absurd rfl more
  | cons letter rest => exact ⟨letter, rest, rfl⟩

/-! ## The arguments -/

/-- Arguments say items, behind an option that still needs its value or behind none. -/
inductive Reads : Option Setting → List (List Char) → List Item → Prop
  | nil : Reads none [] []
  | terminator (args : List (List Char)) : Reads none (['-', '-'] :: args) (args.map .operand)
  | operand {arg : List Char} {args : List (List Char)} {items : List Item} (plain : IsPlain arg)
      (behind : Reads none args items) : Reads none (arg :: args) (.operand arg :: items)
  | options {arg : List Char} {args : List (List Char)} {front items : List Item}
      {needy : Option Setting} (spells : Spells arg front needy)
      (behind : Reads needy args items) : Reads none (arg :: args) (front ++ items)
  | value {setting : Setting} {value : List Char} {args : List (List Char)} {items : List Item}
      (fits : setting.takesHyphens = true ∨ IsPlain value) (behind : Reads none args items) :
      Reads (some setting) (value :: args) (.setting setting value :: items)

/-! ## One way to read -/

lemma mem_of_lookup_eq_some {α β : Type} [BEq α] [LawfulBEq α] {table : List (α × β)} {key : α}
    {entry : β} (found : table.lookup key = some entry) : (key, entry) ∈ table := by
  obtain ⟨front, last, rfl, _⟩ := List.lookup_eq_some_iff.1 found
  exact List.mem_append_right front List.mem_cons_self

lemma mem_letters_of_known {letter : Char} {switch : Switch}
    (known : Switch.ofLetter? letter = some switch) : (letter, switch) ∈ Switch.letters :=
  mem_of_lookup_eq_some known

lemma equals_not_mem_of_known {name : List Char} {switch : Switch}
    (known : Switch.ofName? name = some switch) : '=' ∉ name := by
  have names : ∀ entry ∈ Switch.longNames, '=' ∉ entry.1 := by decide
  exact names _ (mem_of_lookup_eq_some known)

lemma Clusters.mem_letters {letter : Char} {rest : List Char} {items : List Item}
    {needy : Option Setting} (h : Clusters (letter :: rest) items needy) :
    ∃ switch, (letter, switch) ∈ Switch.letters := by
  cases h with
  | flag known _ => exact ⟨_, mem_letters_of_known known⟩
  | bare known => exact ⟨_, mem_letters_of_known known⟩
  | equals known => exact ⟨_, mem_letters_of_known known⟩
  | glued known _ => exact ⟨_, mem_letters_of_known known⟩

lemma Clusters.head_ne {letter : Char} {rest : List Char} {items : List Item}
    {needy : Option Setting} (h : Clusters (letter :: rest) items needy) : letter ≠ '-' := by
  have letters : ∀ entry ∈ Switch.letters, entry.1 ≠ '-' := by decide
  obtain ⟨switch, member⟩ := h.mem_letters
  exact letters _ member

lemma Clusters.unique {letters : List Char} {items items' : List Item}
    {needy needy' : Option Setting} (h : Clusters letters items needy)
    (h' : Clusters letters items' needy') : items = items' ∧ needy = needy' := by
  induction h generalizing items' with
  | nil =>
      cases h'
      exact ⟨rfl, rfl⟩
  | flag known _ ih =>
      cases h' with
      | flag known' behind' =>
          cases known.symm.trans known'
          obtain ⟨rfl, rfl⟩ := ih behind'
          exact ⟨rfl, rfl⟩
      | bare known' => cases known.symm.trans known'
      | equals known' => cases known.symm.trans known'
      | glued known' _ => cases known.symm.trans known'
  | bare known =>
      cases h' with
      | flag known' _ => cases known.symm.trans known'
      | bare known' =>
          cases known.symm.trans known'
          exact ⟨rfl, rfl⟩
  | equals known =>
      cases h' with
      | flag known' _ => cases known.symm.trans known'
      | equals known' =>
          cases known.symm.trans known'
          exact ⟨rfl, rfl⟩
      | glued _ other => exact absurd rfl other
  | glued known other =>
      cases h' with
      | flag known' _ => cases known.symm.trans known'
      | equals _ => exact absurd rfl other
      | glued known' _ =>
          cases known.symm.trans known'
          exact ⟨rfl, rfl⟩

lemma equals_mem (name value : List Char) : '=' ∈ name ++ '=' :: value :=
  List.mem_append_right name List.mem_cons_self

section

variable {name : List Char} (whole : '=' ∉ name)

include whole

lemma ne_equals_of_mem {c : Char} (member : c ∈ name) : (c != '=') = true :=
  bne_iff_ne.2 fun same => whole (same ▸ member)

lemma takeWhile_name_self : name.takeWhile (· != '=') = name :=
  List.takeWhile_eq_self_iff.2 fun _ => ne_equals_of_mem whole

lemma dropWhile_name_self : name.dropWhile (· != '=') = [] :=
  List.dropWhile_eq_nil_iff.2 fun _ => ne_equals_of_mem whole

lemma takeWhile_name (value : List Char) :
    (name ++ '=' :: value).takeWhile (· != '=') = name := by
  rw [List.takeWhile_append_of_pos fun _ => ne_equals_of_mem whole,
    List.takeWhile_cons_of_neg (by decide), List.append_nil]

lemma dropWhile_name (value : List Char) :
    (name ++ '=' :: value).dropWhile (· != '=') = '=' :: value := by
  rw [List.dropWhile_append_of_pos fun _ => ne_equals_of_mem whole,
    List.dropWhile_cons_of_neg (by decide)]

end

lemma Names.unique {text : List Char} {items items' : List Item} {needy needy' : Option Setting}
    (h : Names text items needy) (h' : Names text items' needy') :
    items = items' ∧ needy = needy' := by
  generalize same : text = text' at h'
  cases h with
  | flag known =>
      cases h' with
      | flag known' =>
          cases known.symm.trans (same ▸ known')
          exact ⟨rfl, rfl⟩
      | bare known' => cases known.symm.trans (same ▸ known')
      | equals _ => exact absurd (same ▸ equals_mem _ _) (equals_not_mem_of_known known)
  | bare known =>
      cases h' with
      | flag known' => cases known.symm.trans (same ▸ known')
      | bare known' =>
          cases known.symm.trans (same ▸ known')
          exact ⟨rfl, rfl⟩
      | equals _ => exact absurd (same ▸ equals_mem _ _) (equals_not_mem_of_known known)
  | equals known =>
      cases h' with
      | flag known' => exact absurd (same ▸ equals_mem _ _) (equals_not_mem_of_known known')
      | bare known' => exact absurd (same ▸ equals_mem _ _) (equals_not_mem_of_known known')
      | equals known' =>
          have names := congrArg (List.takeWhile (· != '=')) same
          rw [takeWhile_name (equals_not_mem_of_known known),
            takeWhile_name (equals_not_mem_of_known known')] at names
          subst names
          cases known.symm.trans known'
          cases List.append_cancel_left same
          exact ⟨rfl, rfl⟩

lemma Spells.unique {arg : List Char} {items items' : List Item} {needy needy' : Option Setting}
    (h : Spells arg items needy) (h' : Spells arg items' needy') :
    items = items' ∧ needy = needy' := by
  cases h with
  | long names =>
      cases h' with
      | long names' => exact names.unique names'
      | letters clusters' => exact absurd rfl clusters'.head_ne
  | letters clusters =>
      cases h' with
      | long _ => exact absurd rfl clusters.head_ne
      | letters clusters' => exact clusters.unique clusters'

lemma Spells.not_isPlain {arg : List Char} {items : List Item} {needy : Option Setting}
    (h : Spells arg items needy) : ¬ IsPlain arg := by
  cases h with
  | long _ => exact fun plain => by cases plain rfl
  | letters _ => exact fun plain => by cases plain rfl

lemma not_names_nil {items : List Item} {needy : Option Setting} : ¬ Names [] items needy := by
  intro h
  generalize empty : [] = text at h
  cases h with
  | flag known =>
      subst empty
      cases known
  | bare known =>
      subst empty
      cases known
  | equals _ => exact List.append_ne_nil_of_right_ne_nil _ (List.cons_ne_nil _ _) empty.symm

lemma not_spells_terminator {items : List Item} {needy : Option Setting} :
    ¬ Spells ['-', '-'] items needy := by
  rintro (names | clusters)
  · exact not_names_nil names
  · exact clusters.head_ne rfl

lemma not_isPlain_terminator : ¬ IsPlain ['-', '-'] := fun plain => by cases plain rfl

section

variable {arg : List Char} {args : List (List Char)} {front items : List Item}
  {setting : Setting} {needy : Option Setting}

lemma Reads.of_nil (h : Reads needy [] items) : needy = none ∧ items = [] := by
  cases h
  exact ⟨rfl, rfl⟩

lemma Reads.of_terminator (h : Reads none (['-', '-'] :: args) items) :
    items = args.map .operand := by
  cases h with
  | terminator => rfl
  | operand plain _ => exact absurd plain not_isPlain_terminator
  | options spells _ => exact absurd spells not_spells_terminator

lemma Reads.of_isPlain (plain : IsPlain arg) (h : Reads none (arg :: args) items) :
    ∃ others, items = .operand arg :: others ∧ Reads none args others := by
  cases h with
  | terminator => exact absurd plain not_isPlain_terminator
  | operand _ behind => exact ⟨_, rfl, behind⟩
  | options spells _ => exact absurd plain spells.not_isPlain

lemma Reads.of_spells (spells : Spells arg front needy) (h : Reads none (arg :: args) items) :
    ∃ others, items = front ++ others ∧ Reads needy args others := by
  cases h with
  | terminator => exact absurd spells not_spells_terminator
  | operand plain _ => exact absurd plain spells.not_isPlain
  | options spells' behind =>
      obtain ⟨rfl, rfl⟩ := spells.unique spells'
      exact ⟨_, rfl, behind⟩

lemma Reads.of_value (h : Reads (some setting) (arg :: args) items) :
    (setting.takesHyphens = true ∨ IsPlain arg) ∧
      ∃ others, items = .setting setting arg :: others ∧ Reads none args others := by
  cases h with
  | value fits behind => exact ⟨fits, _, rfl, behind⟩

end

/-- **A command line can be read in one way only.** -/
theorem Reads.unique {needy : Option Setting} {args : List (List Char)} {items items' : List Item}
    (h : Reads needy args items) (h' : Reads needy args items') : items = items' := by
  induction h generalizing items' with
  | nil => exact h'.of_nil.2.symm
  | terminator => exact h'.of_terminator.symm
  | operand plain _ ih =>
      obtain ⟨others, rfl, behind⟩ := h'.of_isPlain plain
      rw [ih behind]
  | options spells _ ih =>
      obtain ⟨others, rfl, behind⟩ := h'.of_spells spells
      rw [ih behind]
  | value _ _ ih =>
      obtain ⟨_, others, rfl, behind⟩ := h'.of_value
      rw [ih behind]

/-- **An option with its value parts a command line in two that are read on their own**, unless
it is itself taken for the value of an option. -/
theorem Reads.split {needy : Option Setting} {before after : List (List Char)}
    {arg value : List Char} {items front : List Item} {setting : Setting}
    (h : Reads needy (before ++ arg :: value :: after) items)
    (spells : Spells arg front (some setting)) (early : ['-', '-'] ∉ before) :
    (∃ first last, Reads needy before first ∧ Reads none after last ∧
      items = first ++ (front ++ .setting setting value :: last)) ∨
    ∃ other : Setting, other.takesHyphens = true ∧ .setting other arg ∈ items := by
  generalize same : before ++ arg :: value :: after = args at h
  induction h generalizing before with
  | nil => cases before <;> cases same
  | terminator =>
      cases before with
      | nil =>
          cases same
          exact absurd spells not_spells_terminator
      | cons =>
          cases same
          exact absurd List.mem_cons_self early
  | operand plain _ ih =>
      cases before with
      | nil =>
          cases same
          exact absurd plain spells.not_isPlain
      | cons =>
          cases same
          obtain ⟨first, last, read, later, rfl⟩ | ⟨other, hyphens, member⟩ :=
            ih (List.not_mem_of_not_mem_cons early) rfl
          · exact .inl ⟨_, last, .operand plain read, later, rfl⟩
          · exact .inr ⟨other, hyphens, List.mem_cons_of_mem _ member⟩
  | options spells' behind ih =>
      cases before with
      | nil =>
          cases same
          obtain ⟨rfl, rfl⟩ := spells.unique spells'
          obtain ⟨_, last, rfl, later⟩ := behind.of_value
          exact .inl ⟨[], last, .nil, later, rfl⟩
      | cons =>
          cases same
          obtain ⟨first, last, read, later, rfl⟩ | ⟨other, hyphens, member⟩ :=
            ih (List.not_mem_of_not_mem_cons early) rfl
          · exact .inl ⟨_, last, .options spells' read, later, (List.append_assoc ..).symm⟩
          · exact .inr ⟨other, hyphens, List.mem_append_right _ member⟩
  | value fits _ ih =>
      cases before with
      | nil =>
          cases same
          -- The option is a value here, and as it is not plain, one that is taken as it stands.
          exact .inr ⟨_, fits.resolve_right spells.not_isPlain, List.mem_cons_self⟩
      | cons =>
          cases same
          obtain ⟨first, last, read, later, rfl⟩ | ⟨other, hyphens, member⟩ :=
            ih (List.not_mem_of_not_mem_cons early) rfl
          · exact .inl ⟨_, last, .value fits read, later, rfl⟩
          · exact .inr ⟨other, hyphens, List.mem_cons_of_mem _ member⟩

end Concordance.CommandLine
