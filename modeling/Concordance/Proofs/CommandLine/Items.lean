import Concordance.Proofs.CommandLine.Grammar
import Concordance.Proofs.Decimal.Grammar

/-!
# What items mean

The items of a command line are looked at by kind: its operands, its flags, and the values of each
option, each in the order in which they stand.

* `MayFollow` says which items may stand behind others, and `Admits` that all of them may.
* `Resolves` says which options come of the items: the flags are counted or looked for, the last
  encoding counts, and an option has the value it is given.
* `Resolves.unique` says that no more is needed to know the options.
-/

namespace Concordance.CommandLine

/-! ## Items by kind -/

/-- The operands among some items. -/
def operandsOf (items : List Item) : List (List Char) :=
  items.filterMap fun
    | .operand text => some text
    | _ => none

/-- The flags among some items. -/
def flagsOf (items : List Item) : List Flag :=
  items.filterMap fun
    | .flag flag => some flag
    | _ => none

/-- The values of an option among some items. -/
def valuesOf (setting : Setting) (items : List Item) : List (List Char) :=
  items.filterMap fun
    | .setting other value => if other = setting then some value else none
    | _ => none

/-- The last encoding among some flags. -/
def lastEncoding? (flags : List Flag) : Option Flag :=
  (flags.filter fun flag => flag = .binary ∨ flag = .ascii).getLast?

section

variable (items : List Item) (flags : List Flag)

lemma operandsOf_snoc (item : Item) : operandsOf (items ++ [item]) = operandsOf items ++
    match item with
    | .operand text => [text]
    | _ => [] := by
  rw [operandsOf, List.filterMap_append]
  cases item <;> rfl

lemma flagsOf_snoc (item : Item) : flagsOf (items ++ [item]) = flagsOf items ++
    match item with
    | .flag flag => [flag]
    | _ => [] := by
  rw [flagsOf, List.filterMap_append]
  cases item <;> rfl

lemma valuesOf_snoc (setting : Setting) (item : Item) :
    valuesOf setting (items ++ [item]) = valuesOf setting items ++
      match item with
      | .setting other value => if other = setting then [value] else []
      | _ => [] := by
  rw [valuesOf, List.filterMap_append]
  cases item with
  | setting other value => by_cases same : other = setting <;> simp [valuesOf, same]
  | _ => rfl

lemma lastEncoding?_snoc (flag : Flag) : lastEncoding? (flags ++ [flag]) =
    if flag = .binary ∨ flag = .ascii then some flag else lastEncoding? flags := by
  rw [lastEncoding?, List.filter_append]
  by_cases encoding : flag = .binary ∨ flag = .ascii
  · simp [encoding]
  · simp [encoding, lastEncoding?]

end

/-! ## Which items may stand -/

/-- The value of an option can be read. -/
def IsReadable : Setting → List Char → Prop
  | .npoints, value => ∃ n, Text.IntegerText value n
  | .delta, value => ∃ x, Binary64.FloatText value x
  | .output, _ => True

/-- An item may stand behind some others. -/
def MayFollow (items : List Item) : Item → Prop
  | .flag .help => False
  | .flag .verbose => True
  | .flag .guess => .guess ∉ flagsOf items
  | .flag .tallyOutside => .tallyOutside ∉ flagsOf items
  | .flag .binary => lastEncoding? (flagsOf items) ≠ some .binary
  | .flag .ascii => lastEncoding? (flagsOf items) ≠ some .ascii
  | .setting setting value => valuesOf setting items = [] ∧ IsReadable setting value
  | .operand text => text ≠ []

/-- Each item may stand behind those before it. -/
def Admits (items : List Item) : Prop :=
  ∀ front item last, items = front ++ item :: last → MayFollow front item

lemma admits_nil : Admits [] := by
  intro front item last empty
  cases front <;> cases empty

lemma admits_snoc_iff {items : List Item} {item : Item} :
    Admits (items ++ [item]) ↔ Admits items ∧ MayFollow items item := by
  constructor
  · intro admits
    refine ⟨?_, admits items item [] rfl⟩
    rintro front other last rfl
    exact admits front other (last ++ [item]) (by rw [List.append_assoc, List.cons_append])
  · rintro ⟨admits, follows⟩ front other last same
    obtain rfl | ⟨later, final, rfl⟩ := last.eq_nil_or_concat
    · obtain ⟨rfl, last⟩ := List.append_inj' same rfl
      cases last
      exact follows
    · rw [List.concat_eq_append, ← List.cons_append, ← List.append_assoc] at same
      exact admits front other later (List.append_inj_left' same rfl)

/-! ## Which options come of them -/

/-- The value of an option that is given once or not at all. -/
inductive Given {α : Type} (reads : List Char → α → Prop) : List (List Char) → Option α → Prop
  | absent : Given reads [] none
  | once {value : List Char} {x : α} (read : reads value x) : Given reads [value] (some x)

lemma Given.snoc {α : Type} {reads : List Char → α → Prop} {values : List (List Char)}
    {value : List Char} {x : α} (fresh : Given reads values none) (read : reads value x) :
    Given reads (values ++ [value]) (some x) := by
  cases fresh
  exact .once read

lemma Given.eq_none_iff {α : Type} {reads : List Char → α → Prop} {values : List (List Char)}
    {x : Option α} (h : Given reads values x) : x = none ↔ values = [] := by
  cases h with
  | absent => exact iff_of_true rfl rfl
  | once _ => exact iff_of_false nofun nofun

/-- Options come of some items. -/
structure Resolves (items : List Item) (o : Options) : Prop where
  operands : operandsOf items = [o.model, o.trace]
  verbose : o.verbose = Nat.min 255 ((flagsOf items).count .verbose)
  guess : o.guess = true ↔ .guess ∈ flagsOf items
  encoding : o.encoding = .ascii ↔ lastEncoding? (flagsOf items) = some .ascii
  tallyOutside : o.tallyOutside = true ↔ .tallyOutside ∈ flagsOf items
  npoints : Given Text.IntegerText (valuesOf .npoints items) o.npoints
  delta : Given Binary64.FloatText (valuesOf .delta items) o.delta
  output : ∃ given, Given Eq (valuesOf .output items) given ∧
    o.output = given.getD Options.defaultOutput

lemma Given.unique {α : Type} {reads : List Char → α → Prop} {values : List (List Char)}
    {x y : Option α} (once : ∀ value x y, reads value x → reads value y → x = y)
    (h : Given reads values x) (h' : Given reads values y) : x = y := by
  cases h with
  | absent =>
      cases h'
      rfl
  | once read =>
      cases h' with
      | once read' => rw [once _ _ _ read read']

lemma integerText_unique (value : List Char) (n m : Int64) (h : Text.IntegerText value n)
    (h' : Text.IntegerText value m) : n = m :=
  Except.ok.inj ((Text.readInteger_eq_ok_iff.2 h).symm.trans (Text.readInteger_eq_ok_iff.2 h'))

lemma floatText_unique (value : List Char) (x y : Binary64) (h : Binary64.FloatText value x)
    (h' : Binary64.FloatText value y) : x = y :=
  Option.some.inj
    ((Binary64.ofText?_eq_some_iff.2 h).symm.trans (Binary64.ofText?_eq_some_iff.2 h'))

lemma eq_of_ascii_iff {e e' : Encoding} (same : e = .ascii ↔ e' = .ascii) : e = e' := by
  cases e with
  | ascii => exact (same.1 rfl).symm
  | binary =>
      cases e' with
      | ascii => cases same.2 rfl
      | binary => rfl

/-- **Items settle the options.** -/
theorem Resolves.unique {items : List Item} {o o' : Options} (h : Resolves items o)
    (h' : Resolves items o') : o = o' := by
  obtain ⟨given, output, named⟩ := h.output
  obtain ⟨given', output', named'⟩ := h'.output
  obtain rfl := output.unique (fun _ _ _ same same' => same.symm.trans same') output'
  obtain ⟨model, trace⟩ := List.cons_eq_cons.1 (h.operands.symm.trans h'.operands)
  obtain ⟨trace, _⟩ := List.cons_eq_cons.1 trace
  have guess := Bool.eq_iff_iff.2 (h.guess.trans h'.guess.symm)
  have tallyOutside := Bool.eq_iff_iff.2 (h.tallyOutside.trans h'.tallyOutside.symm)
  have encoding := eq_of_ascii_iff (h.encoding.trans h'.encoding.symm)
  have npoints := h.npoints.unique integerText_unique h'.npoints
  have delta := h.delta.unique floatText_unique h'.delta
  have verbose := h.verbose.trans h'.verbose.symm
  have output := named.trans named'.symm
  cases o
  cases o'
  exact (Options.mk.injEq ..).mpr
    ⟨model, trace, verbose, npoints, delta, guess, encoding, output, tallyOutside⟩

end Concordance.CommandLine
