import Concordance.Proofs.CommandLine.Recognition

/-!
# The scan follows the grammar

A scan recognises an argument before it takes what the last one left pending, and it refuses a
third operand before it looks at the second.  None of this shows in a command line that is
accepted: its items are those that `Reads` finds, and they are taken one after another.

* `Scan.Agrees` says so of the arguments that are left, from any state.
* `Scan.agrees` is the induction on them, with one lemma for each kind of argument.
* `Options.ofArguments_eq_ok_iff` is the scan of a whole command line.
-/

namespace Concordance

open CommandLine

namespace Scan

variable {s s' : Scan} {items : List Item} {setting : Setting} {d : Draft} {o : Options}

/-! ## The end of a scan -/

/-- The scan of some arguments ends with options. -/
def Completes (s : Scan) (args : List (List Char)) (o : Options) : Prop :=
  ∃ last, args.foldlM step s = .ok last ∧ ∃ draft, last.settle = .ok draft ∧ draft.finish = .ok o

lemma completes_nil_iff :
    s.Completes [] o ↔ ∃ draft, s.settle = .ok draft ∧ draft.finish = .ok o :=
  ⟨fun ⟨_, same, h⟩ => Except.ok.inj same ▸ h, fun h => ⟨s, rfl, h⟩⟩

lemma completes_cons_iff {arg : List Char} {args : List (List Char)} :
    s.Completes (arg :: args) o ↔ ∃ next, s.step arg = .ok next ∧ next.Completes args o := by
  constructor
  · rintro ⟨last, scanned, finished⟩
    rw [List.foldlM_cons] at scanned
    obtain ⟨next, first, others⟩ := bind_eq_ok_iff.1 scanned
    exact ⟨next, first, last, others, finished⟩
  · rintro ⟨next, first, last, others, finished⟩
    refine ⟨last, ?_, finished⟩
    rw [List.foldlM_cons]
    exact bind_eq_ok_iff.2 ⟨next, first, others⟩

lemma ofArguments_eq_ok_iff_completes {args : List (List Char)} :
    Options.ofArguments args = .ok o ↔ initial.Completes args o := by
  rw [Options.ofArguments, Completes]
  cases args.foldlM step initial with
  | error => exact iff_of_false nofun fun ⟨_, failed, _⟩ => nomatch failed
  | ok last =>
      simp only [Except.ok.injEq, exists_eq_left']
      cases last.settle with
      | error => exact iff_of_false nofun fun ⟨_, failed, _⟩ => nomatch failed
      | ok draft => exact ⟨fun h => ⟨draft, rfl, h⟩, fun ⟨_, same, h⟩ => Except.ok.inj same ▸ h⟩

/-! ## Operands -/

lemma operandCount_le_of_settle (settles : s.settle = .ok d) :
    s.operandCount ≤ d.operands.length := by
  rcases s with ⟨draft, pending, only⟩
  cases pending with
  | nothing => exact Nat.le_of_eq (congrArg (·.operands.length) (Except.ok.inj settles))
  | awaiting _ => cases settles
  | value setting text =>
      have taken : draft.take (.setting setting text) = .ok d := settles
      exact (Draft.take_eq_ok_iff.1 taken).length_operands
  | operand text =>
      have taken : draft.take (.operand text) = .ok d := settles
      cases Draft.take_eq_ok_iff.1 taken
      have grown : (draft.operands ++ [text]).length = draft.operands.length + 1 :=
        List.length_append
      exact grown.ge

lemma operand_eq_ok_iff {text : List Char} : s.operand text = .ok s' ↔ s.operandCount < 2 ∧
    ∃ draft, s.settle = .ok draft ∧ s' = ⟨draft, .operand text, s.onlyOperands⟩ := by
  rw [operand]
  split
  · exact await_eq_ok_iff.trans (and_iff_right ‹_›).symm
  · exact iff_of_false nofun fun h => absurd h.1 ‹_›

/-- A third operand is refused at once, and else at the end. -/
lemma operandCount_lt_of_gives {text : List Char} (settles : s.settle = .ok d)
    (gives : d.Gives (.operand text :: items) o) : s.operandCount < 2 := by
  obtain ⟨last, taken, finished⟩ := gives
  obtain ⟨next, first, others⟩ := Draft.takeAll_cons_iff.1 taken
  cases Draft.take_eq_ok_iff.1 first
  have before := operandCount_le_of_settle settles
  have between := Draft.length_operands_of_takeAll others
  have two := congrArg List.length (Draft.finish_eq_ok_iff.1 finished).1
  rw [List.length_append] at between
  simp only [List.length_cons, List.length_nil] at two between
  omega

/-- An operand is next, and the arguments behind it have been dealt with. -/
lemma exists_operand_iff {text : List Char} {args : List (List Char)} {reading : List Item → Prop}
    (ready : s.pending.needy = none)
    (behind : ∀ draft, Completes ⟨draft, .operand text, s.onlyOperands⟩ args o ↔
      ∃ items, reading items ∧ draft.Gives (.operand text :: items) o) :
    (∃ next, s.operand text = .ok next ∧ next.Completes args o) ↔
      ∃ items, reading items ∧ s.draft.Gives (s.pending.items ++ .operand text :: items) o := by
  constructor
  · rintro ⟨next, recognised, completes⟩
    obtain ⟨_, draft, settles, rfl⟩ := operand_eq_ok_iff.1 recognised
    obtain ⟨items, read, gives⟩ := (behind draft).1 completes
    exact ⟨items, read, Draft.gives_append_iff.2 ⟨draft, (settle_eq_ok_iff.1 settles).2, gives⟩⟩
  · rintro ⟨items, read, gives⟩
    obtain ⟨draft, taken, gives⟩ := Draft.gives_append_iff.1 gives
    have settles := settle_eq_ok_iff.2 ⟨ready, taken⟩
    exact ⟨_, operand_eq_ok_iff.2 ⟨operandCount_lt_of_gives settles gives, draft, settles, rfl⟩,
      (behind draft).2 ⟨items, read, gives⟩⟩

/-! ## Any argument -/

/-- Options are next: what they leave pending is taken with the arguments behind them. -/
lemma gives_iff_takes {front : List Item} (ready : s.pending.needy = none)
    (needy : Option Setting) : s.draft.Gives (s.pending.items ++ (front ++ items)) o ↔
      ∃ next, s.Takes front needy next ∧ next.draft.Gives (next.pending.items ++ items) o := by
  rw [Draft.gives_append_iff]
  constructor
  · rintro ⟨settled, taken, gives⟩
    obtain ⟨draft, options, gives⟩ := Draft.gives_append_iff.1 gives
    refine ⟨_, ⟨settled, draft, settle_eq_ok_iff.2 ⟨ready, taken⟩, options, rfl⟩, ?_⟩
    rwa [Pending.items_ofNeedy]
  · rintro ⟨_, ⟨settled, draft, settles, options, rfl⟩, gives⟩
    rw [Pending.items_ofNeedy] at gives
    exact ⟨settled, (settle_eq_ok_iff.1 settles).2,
      Draft.gives_append_iff.2 ⟨draft, options, gives⟩⟩

/-- Behind the terminator all is operands. -/
lemma completes_iff_of_onlyOperands {args : List (List Char)} (only : s.onlyOperands = true)
    (ready : s.pending.needy = none) :
    s.Completes args o ↔ s.draft.Gives (s.pending.items ++ args.map .operand) o := by
  induction args generalizing s with
  | nil =>
      rw [completes_nil_iff, List.map_nil, List.append_nil]
      exact exists_congr fun draft => and_congr_left' (settle_eq_ok_iff.trans (and_iff_right ready))
  | cons arg args ih =>
      have step_eq : s.step arg = s.operand arg := if_pos only
      have behind : ∀ draft, Completes ⟨draft, .operand arg, s.onlyOperands⟩ args o ↔
          ∃ items, items = args.map .operand ∧ draft.Gives (.operand arg :: items) o := by
        intro draft
        rw [exists_eq_left]
        exact ih only rfl
      rw [completes_cons_iff, step_eq, exists_operand_iff ready behind]
      exact exists_eq_left

/-- Behind the terminator no option gets its value. -/
lemma not_completes_of_onlyOperands {args : List (List Char)} (only : s.onlyOperands = true)
    (waits : s.pending.needy ≠ none) : ¬ s.Completes args o := by
  have failed : ∀ draft, s.settle ≠ .ok draft := fun draft settles =>
    waits (settle_eq_ok_iff.1 settles).1
  cases args with
  | nil =>
      rw [completes_nil_iff]
      exact fun ⟨draft, settles, _⟩ => failed draft settles
  | cons arg args =>
      have step_eq : s.step arg = s.operand arg := if_pos only
      rw [completes_cons_iff, step_eq]
      rintro ⟨next, recognised, _⟩
      obtain ⟨_, draft, settles, _⟩ := operand_eq_ok_iff.1 recognised
      exact failed draft settles

lemma step_awaiting (draft : Draft) (arg : List Char) :
    step ⟨draft, .awaiting setting, false⟩ arg = if setting.takesHyphens then
      .ok ⟨draft, .value setting arg, false⟩ else recognise ⟨draft, .awaiting setting, false⟩ arg :=
  rfl

lemma step_of_ready (only : s.onlyOperands = false) (ready : s.pending.needy = none)
    (arg : List Char) : s.step arg = s.recognise arg := by
  obtain ⟨draft, pending, _⟩ := s
  cases only
  cases pending with
  | awaiting => cases ready
  | _ => rfl

/-- What is left of a command line agrees with the grammar, from any state. -/
def Agrees (args : List (List Char)) (o : Options) : Prop :=
  ∀ s : Scan, s.onlyOperands = false → (s.Completes args o ↔
    ∃ items, Reads s.pending.needy args items ∧ s.draft.Gives (s.pending.items ++ items) o)

lemma agrees_nil : Agrees [] o := by
  intro s _
  rw [completes_nil_iff]
  constructor
  · rintro ⟨draft, settles, finished⟩
    obtain ⟨ready, taken⟩ := settle_eq_ok_iff.1 settles
    refine ⟨[], ready ▸ .nil, draft, ?_, finished⟩
    rwa [List.append_nil]
  · rintro ⟨items, read, draft, taken, finished⟩
    obtain ⟨ready, rfl⟩ := read.of_nil
    rw [List.append_nil] at taken
    exact ⟨draft, settle_eq_ok_iff.2 ⟨ready, taken⟩, finished⟩

section

variable {arg : List Char} {args : List (List Char)} (behind : Agrees args o)

include behind

/-- The argument is the value that an option still needs. -/
lemma completes_value_iff {draft : Draft} (fits : setting.takesHyphens = true ∨ IsPlain arg) :
    Completes ⟨draft, .awaiting setting, false⟩ (arg :: args) o ↔
      ∃ items, Reads (some setting) (arg :: args) items ∧ draft.Gives items o := by
  have step_eq : step ⟨draft, .awaiting setting, false⟩ arg
      = .ok ⟨draft, .value setting arg, false⟩ := by
    rw [step_awaiting]
    split
    · rfl
    · exact recognise_of_isPlain (fits.resolve_left ‹_›)
  rw [completes_cons_iff, step_eq]
  simp only [Except.ok.injEq, exists_eq_left']
  rw [behind ⟨draft, .value setting arg, false⟩ rfl]
  constructor
  · rintro ⟨items, read, gives⟩
    exact ⟨_, .value fits read, gives⟩
  · rintro ⟨_, read, gives⟩
    obtain ⟨_, others, rfl, later⟩ := read.of_value
    exact ⟨others, later, gives⟩

/-- The argument is an operand. -/
lemma completes_operand_iff (only : s.onlyOperands = false) (ready : s.pending.needy = none)
    (plain : IsPlain arg) : s.Completes (arg :: args) o ↔
      ∃ items, Reads none (arg :: args) items ∧ s.draft.Gives (s.pending.items ++ items) o := by
  have step_eq : s.step arg = s.operand arg := by
    rw [step_of_ready only ready, recognise_of_isPlain plain]
    obtain ⟨draft, pending, _⟩ := s
    cases pending with
    | awaiting => cases ready
    | _ => rfl
  have later : ∀ draft, Completes ⟨draft, .operand arg, s.onlyOperands⟩ args o ↔
      ∃ items, Reads none args items ∧ draft.Gives (.operand arg :: items) o :=
    fun draft => behind ⟨draft, .operand arg, s.onlyOperands⟩ only
  rw [completes_cons_iff, step_eq, exists_operand_iff ready later]
  constructor
  · rintro ⟨items, read, gives⟩
    exact ⟨_, .operand plain read, gives⟩
  · rintro ⟨_, read, gives⟩
    obtain ⟨others, rfl, later⟩ := read.of_isPlain plain
    exact ⟨others, later, gives⟩

/-- The argument has options. -/
lemma completes_options_iff (only : s.onlyOperands = false) (ready : s.pending.needy = none)
    (options : ¬ IsPlain arg) (other : arg ≠ ['-', '-']) : s.Completes (arg :: args) o ↔
      ∃ items, Reads none (arg :: args) items ∧ s.draft.Gives (s.pending.items ++ items) o := by
  -- The arguments behind meet the option that the last letter leaves, if it leaves one.
  have agrees : ∀ {front : List Item} {needy : Option Setting} {next : Scan},
      s.Takes front needy next → (next.Completes args o ↔ ∃ items, Reads needy args items ∧
        next.draft.Gives (next.pending.items ++ items) o) := by
    rintro front needy _ ⟨_, draft, _, _, rfl⟩
    have agrees := behind ⟨draft, .ofNeedy needy, s.onlyOperands⟩ only
    rwa [Pending.needy_ofNeedy] at agrees
  rw [completes_cons_iff, step_of_ready only ready]
  constructor
  · rintro ⟨next, recognised, completes⟩
    obtain ⟨front, needy, spells, takes⟩ := takes_of_recognise options other recognised
    obtain ⟨items, read, gives⟩ := (agrees takes).1 completes
    exact ⟨_, .options spells read, (gives_iff_takes ready needy).2 ⟨next, takes, gives⟩⟩
  · rintro ⟨_, read, gives⟩
    cases read with
    | terminator => exact absurd rfl other
    | operand plain _ => exact absurd plain options
    | options spells later =>
        obtain ⟨next, takes, gives⟩ := (gives_iff_takes ready _).1 gives
        exact ⟨next, recognise_of_takes spells takes, (agrees takes).2 ⟨_, later, gives⟩⟩

end

/-- The argument cannot be the value that an option still needs. -/
lemma not_completes_of_unfit {draft : Draft} {arg : List Char} {args : List (List Char)}
    (unfit : ¬ (setting.takesHyphens = true ∨ IsPlain arg)) :
    ¬ Completes ⟨draft, .awaiting setting, false⟩ (arg :: args) o := by
  obtain ⟨hyphens, options⟩ := not_or.1 unfit
  rw [completes_cons_iff, step_awaiting, if_neg hyphens]
  rintro ⟨next, recognised, completes⟩
  by_cases terminator : arg = ['-', '-']
  · subst terminator
    cases recognised
    have waits : (Pending.awaiting setting).needy ≠ none := Option.some_ne_none setting
    exact not_completes_of_onlyOperands rfl waits completes
  · obtain ⟨_, _, _, _, _, settles, _⟩ := takes_of_recognise options terminator recognised
    cases settles

lemma completes_terminator_iff {args : List (List Char)} (only : s.onlyOperands = false)
    (ready : s.pending.needy = none) : s.Completes (['-', '-'] :: args) o ↔
      ∃ items, Reads none (['-', '-'] :: args) items ∧
        s.draft.Gives (s.pending.items ++ items) o := by
  have step_eq : s.step ['-', '-'] = .ok { s with onlyOperands := true } :=
    step_of_ready only ready _
  rw [completes_cons_iff, step_eq]
  simp only [Except.ok.injEq, exists_eq_left']
  have operands : Completes ⟨s.draft, s.pending, true⟩ args o ↔
      s.draft.Gives (s.pending.items ++ args.map .operand) o :=
    completes_iff_of_onlyOperands rfl ready
  rw [operands]
  constructor
  · exact fun gives => ⟨_, .terminator args, gives⟩
  · rintro ⟨_, read, gives⟩
    exact read.of_terminator ▸ gives

/-- **A scan accepts what the grammar reads and the draft takes.** -/
theorem agrees (args : List (List Char)) (o : Options) : Agrees args o := by
  induction args with
  | nil => exact agrees_nil
  | cons arg args ih =>
      intro s only
      cases waits : s.pending.needy with
      | none =>
          by_cases plain : IsPlain arg
          · exact completes_operand_iff ih only waits plain
          · by_cases terminator : arg = ['-', '-']
            · subst terminator
              exact completes_terminator_iff only waits
            · exact completes_options_iff ih only waits plain terminator
      | some setting =>
          obtain ⟨draft, pending, _⟩ := s
          cases only
          obtain rfl : pending = .awaiting setting := by
            cases pending <;> cases waits
            rfl
          by_cases fits : setting.takesHyphens = true ∨ IsPlain arg
          · exact completes_value_iff ih fits
          · refine iff_of_false (not_completes_of_unfit fits) ?_
            rintro ⟨_, read, _⟩
            exact fits read.of_value.1

end Scan

/-- **A command line is accepted exactly if it says items that can be taken in order.** -/
theorem Options.ofArguments_eq_ok_iff {args : List (List Char)} {o : Options} :
    Options.ofArguments args = .ok o ↔ ∃ items, Reads none args items ∧ Draft.empty.Gives items o :=
  Scan.ofArguments_eq_ok_iff_completes.trans (Scan.agrees args o .initial rfl)

end Concordance
