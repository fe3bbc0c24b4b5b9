import Concordance.Proofs.CommandLine.Items

/-!
# Arguments that begin with hyphens

An option that takes hyphens takes numbers, and no argument that would be an option with its value
missing is one.  Nor is an argument with two hyphens.  So in a command line that is accepted, such
arguments are what they look like wherever they stand before the terminator.

* `Spells.not_isReadable` says so of options that need a value.
* `Reads.filter_early` says so of the flags that have no letter, which can be found without the
  grammar: they are the arguments that are spelled like them.
-/

namespace Concordance.CommandLine

/-! ## Options that need a value -/

/-- A text with one hyphen in front is a number only if what is behind the hyphen is one. -/
lemma not_isReadable_of_body {letter : Char} {rest : List Char} {setting : Setting}
    (hyphens : setting.takesHyphens = true) (digit : letter.isDigit = false)
    (body : ∀ m, ¬ Decimal.MagnitudeText (letter :: rest) m) :
    ¬ IsReadable setting ('-' :: letter :: rest) := by
  cases setting with
  | npoints =>
      rintro ⟨n, digits | _ | digits⟩
      · exact absurd (digits.digits '-' List.mem_cons_self) nofun
      · exact absurd ((digits.digits letter List.mem_cons_self).symm.trans digit) nofun
  | delta =>
      rintro ⟨_, _ | _ | _, magnitude⟩
      · obtain ⟨_, _, same, _, minus⟩ := magnitude.eq_cons
        exact minus (List.cons.inj same).1.symm
      · exact body _ magnitude
  | output => cases hyphens

lemma not_isReadable_of_hyphens {setting : Setting} (hyphens : setting.takesHyphens = true)
    (text : List Char) : ¬ IsReadable setting ('-' :: '-' :: text) := by
  refine not_isReadable_of_body hyphens rfl fun m magnitude => ?_
  obtain ⟨_, _, same, _, minus⟩ := magnitude.eq_cons
  exact minus (List.cons.inj same).1.symm

section

variable {letter : Char} {rest : List Char} {items : List Item} {setting other : Setting}
  (h : Clusters (letter :: rest) items (some setting))

include h

/-- Letters with a value missing at their end are no number, not even `nan`, whose first letter
would have its value behind it. -/
lemma Clusters.not_magnitudeText {m : Nat} : ¬ Decimal.MagnitudeText (letter :: rest) m := by
  have words : ∀ entry ∈ Switch.letters, entry.1.toLower ≠ 'i' ∧
      (entry.1.toLower = 'n' → entry.1 = 'n') ∧ entry.1.isDigit = false ∧ entry.1 ≠ '.' := by
    decide
  obtain ⟨switch, member⟩ := h.mem_letters
  obtain ⟨infinite, nan, digit, point⟩ := words _ member
  rintro ((word | word) | word | unsigned)
  · exact infinite (List.cons.inj word).1
  · exact infinite (List.cons.inj word).1
  · obtain rfl := nan (List.cons.inj word).1
    cases h with
    | flag known _ => cases known
    | bare _ => cases word
  · obtain ⟨c, _, same, isDigit | rfl⟩ := unsigned.eq_cons
    · cases same
      exact absurd (isDigit.symm.trans digit) nofun
    · exact point (List.cons.inj same).1

lemma Clusters.not_isReadable (hyphens : other.takesHyphens = true) :
    ¬ IsReadable other ('-' :: letter :: rest) := by
  have letters : ∀ entry ∈ Switch.letters, entry.1.isDigit = false := by decide
  obtain ⟨switch, member⟩ := h.mem_letters
  exact not_isReadable_of_body hyphens (letters _ member) fun m => h.not_magnitudeText

end

/-- **An option without its value is no number**, so it is never the value of an option that takes
hyphens. -/
theorem Spells.not_isReadable {arg : List Char} {items : List Item} {setting other : Setting}
    (h : Spells arg items (some setting)) (hyphens : other.takesHyphens = true) :
    ¬ IsReadable other arg := by
  cases h with
  | long _ => exact not_isReadable_of_hyphens hyphens _
  | letters clusters => exact clusters.not_isReadable hyphens

lemma Admits.isReadable {items : List Item} {setting : Setting} {value : List Char}
    (h : Admits items) (member : .setting setting value ∈ items) : IsReadable setting value := by
  obtain ⟨front, last, split⟩ := List.append_of_mem member
  exact (h front _ last split).2

/-! ## Flags without a letter -/

/-- The only spelling of a flag that has no letter. -/
def Switch.soleArg? : Switch → Option (List Char)
  | .flag .binary => some "--binary".toList
  | .flag .ascii => some "--ascii".toList
  | .flag .tallyOutside => some "--tally-outside".toList
  | _ => none

/-- The spellings of the flags that have no letter. -/
def soleArgs : List (List Char) :=
  ["--binary".toList, "--ascii".toList, "--tally-outside".toList]

/-- The spellings of such flags among some items. -/
def soleArgsOf (items : List Item) : List (List Char) :=
  (flagsOf items).filterMap fun flag => Switch.soleArg? (.flag flag)

/-- The arguments before the terminator. -/
def early (args : List (List Char)) : List (List Char) := args.takeWhile (· ≠ ['-', '-'])

lemma soleArgsOf_append (items items' : List Item) :
    soleArgsOf (items ++ items') = soleArgsOf items ++ soleArgsOf items' := by
  rw [soleArgsOf, flagsOf, List.filterMap_append, List.filterMap_append]
  rfl

lemma soleArgsOf_flag (flag : Flag) :
    soleArgsOf [.flag flag] = (Switch.soleArg? (.flag flag)).toList := by
  cases flag <;> rfl

lemma soleArgsOf_operands (texts : List (List Char)) : soleArgsOf (texts.map .operand) = [] := by
  induction texts with
  | nil => rfl
  | cons text texts ih => exact ih

lemma equals_not_mem_of_mem_soleArgs {arg : List Char} (h : arg ∈ soleArgs) : '=' ∉ arg := by
  have whole : ∀ arg ∈ soleArgs, '=' ∉ arg := by decide
  exact whole arg h

/-- All these spellings begin with two hyphens. -/
lemma filter_eq_nil {arg : List Char} (single : ∀ text, arg ≠ '-' :: '-' :: text) :
    [arg].filter (· ∈ soleArgs) = [] := by
  have double : ∀ arg ∈ soleArgs, arg = '-' :: '-' :: arg.drop 2 := by decide
  refine List.filter_eq_nil_iff.2 fun arg' member spelled => ?_
  obtain rfl := List.mem_singleton.1 member
  exact single _ (double _ (of_decide_eq_true spelled))

lemma IsPlain.single {arg : List Char} (h : IsPlain arg) (text : List Char) :
    arg ≠ '-' :: '-' :: text := by
  rintro rfl
  cases h rfl

lemma Clusters.soleArgsOf_eq {letters : List Char} {items : List Item} {needy : Option Setting}
    (h : Clusters letters items needy) : soleArgsOf items = [] := by
  have apart : ∀ entry ∈ Switch.letters, (Switch.soleArg? entry.2).toList = [] := by decide
  induction h with
  | @flag _ flag _ items _ known _ ih =>
      calc soleArgsOf (.flag flag :: items)
          = soleArgsOf [.flag flag] ++ soleArgsOf items := soleArgsOf_append [.flag flag] items
        _ = [] := by rw [soleArgsOf_flag, apart _ (mem_letters_of_known known), ih,
              List.append_nil]
  | _ => rfl

lemma Names.filter_eq {text : List Char} {items : List Item} {needy : Option Setting}
    (h : Names text items needy) :
    ['-' :: '-' :: text].filter (· ∈ soleArgs) = soleArgsOf items := by
  have names : ∀ entry ∈ Switch.longNames,
      ['-' :: '-' :: entry.1].filter (· ∈ soleArgs) = (Switch.soleArg? entry.2).toList := by
    decide
  cases h with
  | flag known => rw [names _ (mem_of_lookup_eq_some known), soleArgsOf_flag]
  | bare known => exact names _ (mem_of_lookup_eq_some known)
  | equals _ =>
      refine List.filter_eq_nil_iff.2 fun arg member spelled => ?_
      obtain rfl := List.mem_singleton.1 member
      refine equals_not_mem_of_mem_soleArgs (of_decide_eq_true spelled) ?_
      exact List.mem_cons_of_mem _ (List.mem_cons_of_mem _ (equals_mem _ _))

lemma Spells.filter_eq {arg : List Char} {items : List Item} {needy : Option Setting}
    (h : Spells arg items needy) : [arg].filter (· ∈ soleArgs) = soleArgsOf items := by
  cases h with
  | long names => exact names.filter_eq
  | letters clusters =>
      rw [clusters.soleArgsOf_eq]
      exact filter_eq_nil fun text same =>
        clusters.head_ne (List.cons.inj (List.cons.inj same).2).1

section

variable {arg : List Char} (args : List (List Char))

lemma filter_early_cons (other : arg ≠ ['-', '-']) :
    (early (arg :: args)).filter (· ∈ soleArgs)
      = [arg].filter (· ∈ soleArgs) ++ (early args).filter (· ∈ soleArgs) := by
  have kept : early (arg :: args) = [arg] ++ early args :=
    List.takeWhile_cons_of_pos (p := (· ≠ ['-', '-'])) (decide_eq_true other)
  rw [kept, List.filter_append]

lemma filter_early_cons_of_single (single : ∀ text, arg ≠ '-' :: '-' :: text) :
    (early (arg :: args)).filter (· ∈ soleArgs) = (early args).filter (· ∈ soleArgs) := by
  rw [filter_early_cons args (single []), filter_eq_nil single, List.nil_append]

end

/-- **The flags without a letter are the arguments before the terminator that are spelled like
them.** -/
theorem Reads.filter_early {needy : Option Setting} {args : List (List Char)} {items : List Item}
    (h : Reads needy args items)
    (readable : ∀ setting value, .setting setting value ∈ items → IsReadable setting value) :
    (early args).filter (· ∈ soleArgs) = soleArgsOf items := by
  induction h with
  | nil => rfl
  | terminator args => exact (soleArgsOf_operands args).symm
  | operand plain _ ih =>
      rw [filter_early_cons_of_single _ plain.single]
      exact ih fun setting value member => readable _ _ (List.mem_cons_of_mem _ member)
  | @options arg _ _ _ _ spells _ ih =>
      have other : arg ≠ ['-', '-'] := by
        rintro rfl
        exact not_spells_terminator spells
      rw [filter_early_cons _ other, spells.filter_eq, soleArgsOf_append,
        ih fun setting value member => readable _ _ (List.mem_append_right _ member)]
  | @value setting value _ _ fits _ ih =>
      have single : ∀ text, value ≠ '-' :: '-' :: text := by
        obtain hyphens | plain := fits
        · rintro text rfl
          exact not_isReadable_of_hyphens hyphens text (readable _ _ List.mem_cons_self)
        · exact plain.single
      rw [filter_early_cons_of_single _ single]
      exact ih fun setting value member => readable _ _ (List.mem_cons_of_mem _ member)

/-- Whether an argument is an encoding. -/
def isEncodingArg (arg : List Char) : Bool :=
  arg = "--binary".toList ∨ arg = "--ascii".toList

/-- How an encoding is spelled. -/
def spelling (flag : Flag) : List Char :=
  if flag = .ascii then "--ascii".toList else "--binary".toList

lemma filter_isEncodingArg (flags : List Flag) :
    (flags.filterMap fun flag => Switch.soleArg? (.flag flag)).filter isEncodingArg
      = (flags.filter fun flag => flag = .binary ∨ flag = .ascii).map spelling := by
  induction flags with
  | nil => rfl
  | cons flag flags ih =>
      cases flag with
      | binary => exact congrArg (List.cons _) ih
      | ascii => exact congrArg (List.cons _) ih
      | _ => exact ih

lemma spelling_eq_iff (flag : Flag) : spelling flag = "--ascii".toList ↔ flag = .ascii := by
  cases flag <;> decide

/-- **The last encoding is the last argument before the terminator that is one.** -/
theorem Reads.lastEncoding?_eq_iff {needy : Option Setting} {args : List (List Char)}
    {items : List Item} (h : Reads needy args items)
    (readable : ∀ setting value, .setting setting value ∈ items → IsReadable setting value) :
    lastEncoding? (flagsOf items) = some .ascii ↔
      ((early args).filter isEncodingArg).getLast? = some "--ascii".toList := by
  have sole : ∀ arg, isEncodingArg arg = (isEncodingArg arg && decide (arg ∈ soleArgs)) := by
    intro arg
    rw [eq_comm, Bool.and_eq_left_iff_imp]
    intro encoding
    obtain rfl | rfl := of_decide_eq_true encoding <;> decide
  have spelled : (early args).filter isEncodingArg
      = ((flagsOf items).filter fun flag => flag = .binary ∨ flag = .ascii).map spelling := by
    calc (early args).filter isEncodingArg
        = (early args).filter fun arg => isEncodingArg arg && decide (arg ∈ soleArgs) :=
          List.filter_congr fun arg _ => sole arg
      _ = ((early args).filter (· ∈ soleArgs)).filter isEncodingArg := List.filter_filter.symm
      _ = (soleArgsOf items).filter isEncodingArg := by rw [h.filter_early readable]
      _ = _ := filter_isEncodingArg _
  rw [spelled, List.getLast?_map, Option.map_eq_some_iff, ← lastEncoding?]
  constructor
  · exact fun last => ⟨.ascii, last, rfl⟩
  · rintro ⟨flag, last, same⟩
    exact (spelling_eq_iff flag).1 same ▸ last

lemma mem_soleArgsOf_iff (items : List Item) :
    "--tally-outside".toList ∈ soleArgsOf items ↔ .tallyOutside ∈ flagsOf items := by
  rw [soleArgsOf, List.mem_filterMap]
  constructor
  · rintro ⟨flag, member, spelled⟩
    cases flag with
    | tallyOutside => exact member
    | _ => cases spelled
  · exact fun member => ⟨_, member, rfl⟩

theorem Reads.tallyOutside_mem_iff {needy : Option Setting} {args : List (List Char)}
    {items : List Item} (h : Reads needy args items)
    (readable : ∀ setting value, .setting setting value ∈ items → IsReadable setting value) :
    .tallyOutside ∈ flagsOf items ↔ "--tally-outside".toList ∈ early args := by
  rw [← mem_soleArgsOf_iff, ← h.filter_early readable, List.mem_filter]
  exact and_iff_left (by decide)

end Concordance.CommandLine
