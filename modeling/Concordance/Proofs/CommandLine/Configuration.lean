import Concordance.Proofs.Binary64.Words
import Concordance.Proofs.CommandLine.Hyphens
import Concordance.Proofs.CommandLine.Resolution

/-!
# The configuration of a command line

Every command line that is accepted leads to a configuration that a comparison can run with: a
tolerance above zero and no point budget of zero, whatever is given.

* `ToleranceOf` and `BudgetOf` say what becomes of a tolerance and a number of points that may be
  given, and `Configures` what becomes of the items.
* `Means` says what a command line that is accepted means: its items, the options, and the
  configuration.  What it says of flags without a letter needs no grammar.
* `Options.ofArguments_configures` is the whole way from the arguments to the configuration.
-/

namespace Concordance

namespace CommandLine

/-! ## Parameters -/

/-- The tolerance of a comparison, by the one that is given. -/
inductive ToleranceOf : Option Binary64 → Binary64 → Prop
  | absent : ToleranceOf none defaultDelta
  | above {x : Binary64} (positive : Binary64.lt .zero x = true) : ToleranceOf (some x) x
  | zero {x : Binary64} (isZero : x.isZero = true) : ToleranceOf (some x) defaultDelta
  | below {x : Binary64} (negative : x.lt .zero = true) : ToleranceOf (some x) defaultDelta
  | nan {x : Binary64} (isNaN : x.isNaN = true) : ToleranceOf (some x) defaultDelta

/-- The point budget of a comparison, by the number of points that is given. -/
inductive BudgetOf : Option Int64 → Option Nat → Prop
  | absent : BudgetOf none none
  | ignored {n : Int64} (low : n.toInt ≤ 0) : BudgetOf (some n) none
  | limit {n : Int64} {budget : Nat} (positive : 0 < n.toInt) (same : budget = n.toInt) :
      BudgetOf (some n) (some budget)

/-- Some items lead to a configuration. -/
structure Configures (items : List Item) (config : Config) : Prop where
  standard : Binary64.FloatText "1e-7".toList defaultDelta
  delta : ∃ given, Given Binary64.FloatText (valuesOf .delta items) given ∧
    ToleranceOf given config.delta
  positive : Binary64.lt .zero config.delta = true
  number : config.delta.isNaN = false
  budget : ∃ given, Given Text.IntegerText (valuesOf .npoints items) given ∧
    BudgetOf given config.budget
  outside : config.outside = .tally ↔ .tallyOutside ∈ flagsOf items

lemma toleranceOf_surfaceDelta (o : Options) : ToleranceOf o.delta o.surfaceDelta := by
  rw [Options.surfaceDelta]
  cases o.delta with
  | none => exact .absent
  | some x =>
      dsimp only
      split
      · exact .above ‹_›
      · rename_i low
        obtain isZero | negative | isNaN := Binary64.of_not_above_zero (eq_false_of_ne_true low)
        · exact .zero isZero
        · exact .below negative
        · exact .nan isNaN

lemma budgetOf_budget (o : Options) : BudgetOf o.npoints o.budget := by
  rw [Options.budget]
  cases o.npoints with
  | none => exact .absent
  | some n =>
      rw [Option.bind_some]
      split
      · exact .ignored ‹_›
      · rename_i low
        exact .limit (Int.not_le.1 low) (Int.toNat_of_nonneg (Int.not_le.1 low).le)

lemma zero_lt_defaultDelta : Binary64.lt .zero defaultDelta = true := by decide +kernel

lemma ToleranceOf.positive {given : Option Binary64} {delta : Binary64}
    (h : ToleranceOf given delta) : Binary64.lt .zero delta = true := by
  cases h with
  | above positive => exact positive
  | _ => exact zero_lt_defaultDelta

lemma Resolves.configures {items : List Item} {o : Options} (h : Resolves items o) :
    Configures items o.config where
  standard := Binary64.ofText?_eq_some_iff.1 (by decide +kernel)
  delta := ⟨o.delta, h.delta, toleranceOf_surfaceDelta o⟩
  positive := (toleranceOf_surfaceDelta o).positive
  number := Binary64.isNaN_of_lt (toleranceOf_surfaceDelta o).positive
  budget := ⟨o.npoints, h.npoints, budgetOf_budget o⟩
  outside := by
    rw [← h.tallyOutside, Options.config]
    cases o.tallyOutside <;> simp

/-! ## The whole way -/

/-- Before the terminator, an option that needs a value has the next argument, whatever that looks
like, and what stands before and behind the two is read on its own. -/
def TakesValues (args : List (List Char)) (items : List Item) : Prop :=
  ∀ before arg value after front setting, args = before ++ arg :: value :: after →
    ['-', '-'] ∉ before → Spells arg front (some setting) →
      ∃ first last, Reads none before first ∧ Reads none after last ∧
        items = first ++ (front ++ .setting setting value :: last)

/-- A command line says these items and no others, and these options come of them. -/
structure Means (args : List (List Char)) (items : List Item) (o : Options) : Prop where
  reads : ∀ others, Reads none args others ↔ others = items
  resolves : Resolves items o
  configures : Configures items o.config
  values : TakesValues args items
  encoding : o.encoding = .ascii ↔
    ((early args).filter isEncodingArg).getLast? = some "--ascii".toList
  outside : o.config.outside = .tally ↔ "--tally-outside".toList ∈ early args

lemma takesValues_of_reads {args : List (List Char)} {items : List Item}
    (read : Reads none args items) (admits : Admits items) : TakesValues args items := by
  rintro before arg value after front setting rfl early spells
  obtain parted | ⟨other, hyphens, member⟩ := read.split spells early
  · exact parted
  · exact absurd (admits.isReadable member) (spells.not_isReadable hyphens)

end CommandLine

open CommandLine

/-- **Every command line that is accepted leads to a configuration.**  It can be read in one way:
the last encoding before the terminator counts, each `-V` there is counted, and what follows an
option that needs a value is its value.  The tolerance is above zero, the one that is given if that
is above zero, and the point budget is the number of points that is given if that is positive. -/
theorem Options.ofArguments_configures {args : List (List Char)} {o : Options}
    (accepted : Options.ofArguments args = .ok o) : ∃ items, Means args items o := by
  obtain ⟨items, read, admits, resolves⟩ := Options.ofArguments_eq_ok_iff_resolves.1 accepted
  have readable : ∀ setting value, .setting setting value ∈ items → IsReadable setting value :=
    fun _ _ => admits.isReadable
  exact ⟨items,
    { reads := fun others => ⟨fun read' => read'.unique read, fun same => same ▸ read⟩
      resolves := resolves
      configures := resolves.configures
      values := takesValues_of_reads read admits
      encoding := resolves.encoding.trans (read.lastEncoding?_eq_iff readable)
      outside := resolves.configures.outside.trans (read.tallyOutside_mem_iff readable) }⟩

/-- A zero with a sign and a negative number are values here, and neither is used.  Behind the
terminator `--ascii` is the trace. -/
theorem Options.ofArguments_configures_of_signs :
    let args := ["-Vd".toList, "-0".toList, "--ascii".toList, "--npts".toList, "-5".toList,
      "--binary".toList, "-V".toList, "a".toList, "--".toList, "--ascii".toList]
    let o : Options := ⟨"a".toList, "--ascii".toList, 2, some (-5), some (-.zero), false, .binary,
      Options.defaultOutput, false⟩
    Options.ofArguments args = .ok o ∧ o.config = .standard ∧ ∃ items, Means args items o := by
  intro args o
  have accepted : Options.ofArguments args = .ok o := by decide +kernel
  exact ⟨accepted, by decide +kernel, Options.ofArguments_configures accepted⟩

end Concordance
