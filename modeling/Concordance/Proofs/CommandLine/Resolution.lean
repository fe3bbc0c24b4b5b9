import Concordance.Proofs.CommandLine.Items
import Concordance.Proofs.CommandLine.Scanning
import Mathlib.Data.List.Induction

/-!
# What options come of a command line

The draft keeps up with the items that it takes, and it refuses an item exactly if that may not
stand behind the others.

* `Draft.Holds` is the invariant, and `Draft.Taken.holds` the step that keeps it.
* `Draft.exists_takeAll_iff` is the induction on the items, from the last of them.
* `Options.ofArguments_eq_ok_iff_resolves` puts this together with the grammar.
-/

namespace Concordance

open CommandLine

namespace Draft

/-- A draft has seen some flags. -/
structure HoldsFlags (d : Draft) (flags : List Flag) : Prop where
  verbose : d.verbose = Nat.min 255 (flags.count .verbose)
  guess : d.guess = true ↔ .guess ∈ flags
  binary : d.binary = true ↔ lastEncoding? flags = some .binary
  ascii : d.ascii = true ↔ lastEncoding? flags = some .ascii
  tallyOutside : d.tallyOutside = true ↔ .tallyOutside ∈ flags

/-- A draft has seen some items. -/
structure Holds (d : Draft) (items : List Item) : Prop where
  operands : d.operands = operandsOf items
  flags : d.HoldsFlags (flagsOf items)
  npoints : Given Text.IntegerText (valuesOf .npoints items) d.npoints
  delta : Given Binary64.FloatText (valuesOf .delta items) d.delta
  output : Given Eq (valuesOf .output items) d.output

variable {d d' : Draft} {flag : Flag} {flags : List Flag} {item : Item} {items : List Item}
  {setting : Setting} {value : List Char} {o : Options}

lemma holds_empty : empty.Holds [] where
  operands := rfl
  flags := by constructor <;> decide
  npoints := .absent
  delta := .absent
  output := .absent

lemma Taken.holdsFlags (taken : Taken d (.flag flag) d') (h : d.HoldsFlags flags) :
    d'.HoldsFlags (flags ++ [flag]) := by
  cases taken with
  | verbose =>
      refine ⟨?_, ?_, ?_, ?_, ?_⟩
      · rw [List.count_append, h.verbose]
        change min 255 (min 255 _ + 1) = min 255 (_ + 1)
        omega
      all_goals simp [lastEncoding?_snoc, h.guess, h.binary, h.ascii, h.tallyOutside]
  | guess _ => constructor <;>
      simp [lastEncoding?_snoc, h.verbose, h.binary, h.ascii, h.tallyOutside]
  | binary _ => constructor <;> simp [lastEncoding?_snoc, h.verbose, h.guess, h.tallyOutside]
  | ascii _ => constructor <;> simp [lastEncoding?_snoc, h.verbose, h.guess, h.tallyOutside]
  | tallyOutside _ => constructor <;>
      simp [lastEncoding?_snoc, h.verbose, h.guess, h.binary, h.ascii]

lemma Taken.flag_unchanged (taken : Taken d (.flag flag) d') : d'.operands = d.operands ∧
    d'.npoints = d.npoints ∧ d'.delta = d.delta ∧ d'.output = d.output := by
  cases taken <;> exact ⟨rfl, rfl, rfl, rfl⟩

/-- **What a draft holds is kept up when an item is taken.** -/
lemma Taken.holds (taken : Taken d item d') (h : d.Holds items) : d'.Holds (items ++ [item]) := by
  cases item with
  | flag flag =>
      obtain ⟨operands, npoints, delta, output⟩ := taken.flag_unchanged
      refine ⟨?_, ?_, ?_, ?_, ?_⟩
      · simpa [operandsOf_snoc, operands] using h.operands
      · rw [flagsOf_snoc]
        exact taken.holdsFlags h.flags
      · simpa [valuesOf_snoc, npoints] using h.npoints
      · simpa [valuesOf_snoc, delta] using h.delta
      · simpa [valuesOf_snoc, output] using h.output
  | setting setting value =>
      have flags : d'.HoldsFlags (flagsOf items) := by
        cases taken <;> exact { h.flags with }
      refine ⟨?_, ?_, ?_, ?_, ?_⟩
      · cases taken <;> simpa [operandsOf_snoc] using h.operands
      · simpa [flagsOf_snoc] using flags
      · cases taken with
        | npoints fresh read =>
            have given := (fresh ▸ h.npoints).snoc (Text.readInteger_eq_ok_iff.1 read)
            simpa [valuesOf_snoc] using given
        | _ => simpa [valuesOf_snoc] using h.npoints
      · cases taken with
        | delta fresh read =>
            have given := (fresh ▸ h.delta).snoc (Binary64.ofText?_eq_some_iff.1 read)
            simpa [valuesOf_snoc] using given
        | _ => simpa [valuesOf_snoc] using h.delta
      · cases taken with
        | output fresh =>
            have given := (fresh ▸ h.output).snoc (Eq.refl value)
            simpa [valuesOf_snoc] using given
        | _ => simpa [valuesOf_snoc] using h.output
  | operand text =>
      cases taken
      refine ⟨?_, ?_, ?_, ?_, ?_⟩
      · simp [operandsOf_snoc, h.operands]
      · simpa [flagsOf_snoc] using { h.flags with }
      · simpa [valuesOf_snoc] using h.npoints
      · simpa [valuesOf_snoc] using h.delta
      · simpa [valuesOf_snoc] using h.output

lemma exists_taken_iff (h : d.Holds items) : (∃ d', Taken d item d') ↔ MayFollow items item := by
  match item with
  | .flag .help => exact ⟨fun ⟨_, taken⟩ => (nomatch taken), False.elim⟩
  | .flag .verbose => exact ⟨fun _ => trivial, fun _ => ⟨_, .verbose⟩⟩
  | .flag .guess =>
      refine Iff.trans ?_ (not_congr h.flags.guess)
      exact ⟨fun ⟨_, .guess fresh⟩ => ne_true_of_eq_false fresh,
        fun fresh => ⟨_, .guess (eq_false_of_ne_true fresh)⟩⟩
  | .flag .binary =>
      refine Iff.trans ?_ (not_congr h.flags.binary)
      exact ⟨fun ⟨_, .binary fresh⟩ => ne_true_of_eq_false fresh,
        fun fresh => ⟨_, .binary (eq_false_of_ne_true fresh)⟩⟩
  | .flag .ascii =>
      refine Iff.trans ?_ (not_congr h.flags.ascii)
      exact ⟨fun ⟨_, .ascii fresh⟩ => ne_true_of_eq_false fresh,
        fun fresh => ⟨_, .ascii (eq_false_of_ne_true fresh)⟩⟩
  | .flag .tallyOutside =>
      refine Iff.trans ?_ (not_congr h.flags.tallyOutside)
      exact ⟨fun ⟨_, .tallyOutside fresh⟩ => ne_true_of_eq_false fresh,
        fun fresh => ⟨_, .tallyOutside (eq_false_of_ne_true fresh)⟩⟩
  | .setting .npoints value =>
      refine Iff.trans ?_ (and_congr_left' h.npoints.eq_none_iff)
      exact ⟨fun ⟨_, .npoints fresh read⟩ => ⟨fresh, _, Text.readInteger_eq_ok_iff.1 read⟩,
        fun ⟨fresh, n, read⟩ => ⟨_, .npoints fresh (Text.readInteger_eq_ok_iff.2 read)⟩⟩
  | .setting .delta value =>
      refine Iff.trans ?_ (and_congr_left' h.delta.eq_none_iff)
      exact ⟨fun ⟨_, .delta fresh read⟩ => ⟨fresh, _, Binary64.ofText?_eq_some_iff.1 read⟩,
        fun ⟨fresh, x, read⟩ => ⟨_, .delta fresh (Binary64.ofText?_eq_some_iff.2 read)⟩⟩
  | .setting .output value =>
      refine Iff.trans ?_ (and_congr_left' h.output.eq_none_iff)
      exact ⟨fun ⟨_, .output fresh⟩ => ⟨fresh, trivial⟩, fun ⟨fresh, _⟩ => ⟨_, .output fresh⟩⟩
  | .operand text =>
      exact ⟨fun ⟨_, .operand nonempty⟩ => nonempty, fun nonempty => ⟨_, .operand nonempty⟩⟩

lemma takeAll_snoc_iff : d.takeAll (items ++ [item]) = .ok d' ↔
    ∃ next, d.takeAll items = .ok next ∧ Taken next item d' := by
  rw [takeAll_append_iff]
  exact exists_congr fun _ => and_congr_right fun _ => takeAll_singleton_iff.trans take_eq_ok_iff

/-- **A draft has seen what it has taken.** -/
theorem holds_of_takeAll (h : empty.takeAll items = .ok d) : d.Holds items := by
  induction items using List.reverseRecOn generalizing d with
  | nil => exact takeAll_nil_iff.1 h ▸ holds_empty
  | append_singleton items item ih =>
      obtain ⟨next, before, taken⟩ := takeAll_snoc_iff.1 h
      exact taken.holds (ih before)

/-- **Items are taken exactly if each may stand behind those before it.** -/
theorem exists_takeAll_iff : (∃ d, empty.takeAll items = .ok d) ↔ Admits items := by
  -- The last item is split off, since `MayFollow` looks at those before it.
  induction items using List.reverseRecOn with
  | nil => exact iff_of_true ⟨empty, rfl⟩ admits_nil
  | append_singleton items item ih =>
      rw [admits_snoc_iff, ← ih]
      constructor
      · rintro ⟨d, h⟩
        obtain ⟨next, before, taken⟩ := takeAll_snoc_iff.1 h
        exact ⟨⟨next, before⟩, (exists_taken_iff (holds_of_takeAll before)).1 ⟨d, taken⟩⟩
      · rintro ⟨⟨next, before⟩, follows⟩
        obtain ⟨d, taken⟩ := (exists_taken_iff (holds_of_takeAll before)).2 follows
        exact ⟨d, takeAll_snoc_iff.2 ⟨next, before, taken⟩⟩

lemma encoding_eq_ascii_iff (ascii : Bool) :
    (if ascii then Encoding.ascii else .binary) = .ascii ↔ ascii = true := by
  cases ascii <;> decide

lemma Holds.resolves (h : d.Holds items) (finished : d.finish = .ok o) : Resolves items o := by
  obtain ⟨operands, made⟩ := finish_eq_ok_iff.1 finished
  rw [made]
  exact
    { operands := h.operands.symm.trans operands
      verbose := h.flags.verbose
      guess := h.flags.guess
      encoding := by
        rw [← h.flags.ascii]
        exact encoding_eq_ascii_iff d.ascii
      tallyOutside := h.flags.tallyOutside
      npoints := h.npoints
      delta := h.delta
      output := ⟨d.output, h.output, rfl⟩ }

/-- **Which options come of some items.** -/
theorem gives_empty_iff : empty.Gives items o ↔ Admits items ∧ Resolves items o := by
  constructor
  · rintro ⟨d, taken, finished⟩
    exact ⟨exists_takeAll_iff.1 ⟨d, taken⟩, (holds_of_takeAll taken).resolves finished⟩
  · rintro ⟨admits, resolves⟩
    obtain ⟨d, taken⟩ := exists_takeAll_iff.2 admits
    have holds := holds_of_takeAll taken
    obtain ⟨made, finished⟩ : ∃ made, d.finish = .ok made := by
      rw [finish, holds.operands, resolves.operands]
      exact ⟨_, rfl⟩
    exact ⟨d, taken, (holds.resolves finished).unique resolves ▸ finished⟩

end Draft

/-- **What the parser makes of a command line.**  It accepts a command line exactly if it says items
each of which may stand behind those before it, two operands among them, and the options are those
that come of the items. -/
theorem Options.ofArguments_eq_ok_iff_resolves {args : List (List Char)} {o : Options} :
    Options.ofArguments args = .ok o ↔
      ∃ items, Reads none args items ∧ Admits items ∧ Resolves items o :=
  Options.ofArguments_eq_ok_iff.trans
    (exists_congr fun _ => and_congr_right fun _ => Draft.gives_empty_iff)

end Concordance
