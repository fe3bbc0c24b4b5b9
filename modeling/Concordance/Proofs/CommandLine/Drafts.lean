import Concordance.Proofs.CommandLine.Grammar

/-!
# Taking items

The draft of a command line takes one item after another and refuses some: an option or flag that
stands twice, a value that cannot be read, an empty operand.

* `Draft.Taken` says when an item is taken and what becomes of the draft.
* `Draft.Gives` says which options come of a draft once some more items are taken.
-/

namespace Concordance

open CommandLine

lemma bind_eq_ok_iff {ε α β : Type} {x : Except ε α} {f : α → Except ε β} {b : β} :
    x >>= f = .ok b ↔ ∃ a, x = .ok a ∧ f a = .ok b := by
  cases x with
  | error => exact ⟨nofun, fun ⟨_, failed, _⟩ => nomatch failed⟩
  | ok a => exact ⟨fun h => ⟨a, rfl, h⟩, fun ⟨_, same, h⟩ => Except.ok.inj same ▸ h⟩

namespace Draft

/-- Takes an item. -/
def take (d : Draft) : Item → Except UsageFault Draft
  | .flag flag => d.flag flag
  | .setting setting value => d.setting value setting
  | .operand text => d.operand text

/-- Takes items in order. -/
def takeAll (d : Draft) (items : List Item) : Except UsageFault Draft := items.foldlM take d

/-- Options come of a draft once some more items are taken. -/
def Gives (d : Draft) (items : List Item) (o : Options) : Prop :=
  ∃ last, d.takeAll items = .ok last ∧ last.finish = .ok o

variable {d d' : Draft} {item : Item} {items items' : List Item} {o : Options}

lemma takeAll_nil_iff : d.takeAll [] = .ok d' ↔ d = d' := ⟨Except.ok.inj, congrArg _⟩

lemma takeAll_cons_iff : d.takeAll (item :: items) = .ok d' ↔
    ∃ next, d.take item = .ok next ∧ next.takeAll items = .ok d' := by
  rw [takeAll, List.foldlM_cons, bind_eq_ok_iff]
  rfl

lemma takeAll_singleton_iff : d.takeAll [item] = .ok d' ↔ d.take item = .ok d' := by
  rw [takeAll_cons_iff]
  exact ⟨fun ⟨_, taken, last⟩ => takeAll_nil_iff.1 last ▸ taken, fun h => ⟨d', h, rfl⟩⟩

lemma takeAll_append_iff : d.takeAll (items ++ items') = .ok d' ↔
    ∃ next, d.takeAll items = .ok next ∧ next.takeAll items' = .ok d' := by
  rw [takeAll, List.foldlM_append, bind_eq_ok_iff]
  rfl

lemma gives_append_iff : d.Gives (items ++ items') o ↔
    ∃ next, d.takeAll items = .ok next ∧ next.Gives items' o := by
  constructor
  · rintro ⟨last, taken, finished⟩
    obtain ⟨next, first, others⟩ := takeAll_append_iff.1 taken
    exact ⟨next, first, last, others, finished⟩
  · rintro ⟨next, first, last, others, finished⟩
    exact ⟨last, takeAll_append_iff.2 ⟨next, first, others⟩, finished⟩

/-- What becomes of a draft when an item is taken. -/
inductive Taken (d : Draft) : Item → Draft → Prop
  | verbose : Taken d (.flag .verbose) { d with verbose := Nat.min countLimit (d.verbose + 1) }
  | guess (fresh : d.guess = false) : Taken d (.flag .guess) { d with guess := true }
  | binary (fresh : d.binary = false) :
      Taken d (.flag .binary) { d with binary := true, ascii := false }
  | ascii (fresh : d.ascii = false) :
      Taken d (.flag .ascii) { d with ascii := true, binary := false }
  | tallyOutside (fresh : d.tallyOutside = false) :
      Taken d (.flag .tallyOutside) { d with tallyOutside := true }
  | npoints {value : List Char} {n : Int64} (fresh : d.npoints = none)
      (read : Text.readInteger value = .ok n) :
      Taken d (.setting .npoints value) { d with npoints := some n }
  | delta {value : List Char} {x : Binary64} (fresh : d.delta = none)
      (read : Binary64.ofText? value = some x) :
      Taken d (.setting .delta value) { d with delta := some x }
  | output {value : List Char} (fresh : d.output = none) :
      Taken d (.setting .output value) { d with output := some value }
  | operand {text : List Char} (nonempty : text ≠ []) :
      Taken d (.operand text) { d with operands := d.operands ++ [text] }

lemma unless_eq_ok_iff {refused : Prop} [Decidable refused] {fault : UsageFault}
    {x : Except UsageFault Draft} :
    (if refused then .error fault else x) = .ok d' ↔ ¬ refused ∧ x = .ok d' := by
  split
  · exact iff_of_false nofun fun h => h.1 ‹_›
  · exact ⟨fun h => ⟨‹_›, h⟩, And.right⟩

lemma taken_of_flag {flag : Flag} (h : d.flag flag = .ok d') : Taken d (.flag flag) d' := by
  cases flag with
  | help => cases h
  | verbose =>
      cases h
      exact .verbose
  | guess =>
      obtain ⟨fresh, made⟩ := unless_eq_ok_iff.1 h
      cases made
      exact .guess (eq_false_of_ne_true fresh)
  | binary =>
      obtain ⟨fresh, made⟩ := unless_eq_ok_iff.1 h
      cases made
      exact .binary (eq_false_of_ne_true fresh)
  | ascii =>
      obtain ⟨fresh, made⟩ := unless_eq_ok_iff.1 h
      cases made
      exact .ascii (eq_false_of_ne_true fresh)
  | tallyOutside =>
      obtain ⟨fresh, made⟩ := unless_eq_ok_iff.1 h
      cases made
      exact .tallyOutside (eq_false_of_ne_true fresh)

lemma taken_of_setting {setting : Setting} {value : List Char}
    (h : d.setting value setting = .ok d') : Taken d (.setting setting value) d' := by
  cases setting with
  | npoints =>
      obtain ⟨fresh, made⟩ := unless_eq_ok_iff.1 h
      split at made
      · cases made
        exact .npoints (Option.not_isSome_iff_eq_none.1 fresh) ‹_›
      · cases made
  | delta =>
      obtain ⟨fresh, made⟩ := unless_eq_ok_iff.1 h
      split at made
      · cases made
        exact .delta (Option.not_isSome_iff_eq_none.1 fresh) ‹_›
      · cases made
  | output =>
      obtain ⟨fresh, made⟩ := unless_eq_ok_iff.1 h
      cases made
      exact .output (Option.not_isSome_iff_eq_none.1 fresh)

/-- **An item is taken in one of nine ways.** -/
theorem take_eq_ok_iff : d.take item = .ok d' ↔ Taken d item d' := by
  constructor
  · intro h
    cases item with
    | flag flag => exact taken_of_flag h
    | setting setting value => exact taken_of_setting h
    | operand text =>
        obtain ⟨nonempty, made⟩ := unless_eq_ok_iff.1 h
        cases made
        exact .operand nonempty
  · intro h
    cases h with
    | verbose => rfl
    | guess fresh => exact if_neg (ne_true_of_eq_false fresh)
    | binary fresh => exact if_neg (ne_true_of_eq_false fresh)
    | ascii fresh => exact if_neg (ne_true_of_eq_false fresh)
    | tallyOutside fresh => exact if_neg (ne_true_of_eq_false fresh)
    | npoints fresh read =>
        rw [take, Draft.setting, if_neg (Option.not_isSome_iff_eq_none.2 fresh), read]
    | delta fresh read =>
        rw [take, Draft.setting, if_neg (Option.not_isSome_iff_eq_none.2 fresh), read]
    | output fresh => exact if_neg (Option.not_isSome_iff_eq_none.2 fresh)
    | operand nonempty => exact if_neg nonempty

lemma Taken.length_operands (h : Taken d item d') : d.operands.length ≤ d'.operands.length := by
  cases h with
  | operand _ => exact List.length_append ▸ Nat.le_add_right _ _
  | _ => exact Nat.le_refl _

lemma length_operands_of_takeAll (h : d.takeAll items = .ok d') :
    d.operands.length ≤ d'.operands.length := by
  induction items generalizing d with
  | nil => exact takeAll_nil_iff.1 h ▸ Nat.le_refl _
  | cons item items ih =>
      obtain ⟨next, first, others⟩ := takeAll_cons_iff.1 h
      exact (take_eq_ok_iff.1 first).length_operands.trans (ih others)

lemma finish_eq_ok_iff : d.finish = .ok o ↔ d.operands = [o.model, o.trace] ∧
    o = ⟨o.model, o.trace, d.verbose, d.npoints, d.delta, d.guess,
      if d.ascii then .ascii else .binary, d.output.getD Options.defaultOutput,
      d.tallyOutside⟩ := by
  rw [finish]
  split
  · rename_i model trace two
    constructor
    · intro h
      cases h
      exact ⟨two, rfl⟩
    · rintro ⟨same, made⟩
      obtain ⟨rfl, rfl⟩ : model = o.model ∧ trace = o.trace := by
        simpa using two.symm.trans same
      exact congrArg Except.ok made.symm
  · rename_i other
    exact iff_of_false nofun fun h => other _ _ h.1

end Draft

end Concordance
