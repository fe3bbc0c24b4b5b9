import Concordance.Proofs.CommandLine.Drafts
import Concordance.Proofs.Text.Numerals

/-!
# One argument with options

An argument with options is recognised letter by letter, or as a name behind two hyphens, and it is
accepted exactly if the grammar spells items by it that the draft takes.

* `Pending.items` is what is recognised but not taken, and `Pending.needy` the option that still
  needs its value.
* `Scan.Takes` is what one such argument does: what is pending is taken, then the items it spells.
* `Scan.recognise_of_takes` and `Scan.takes_of_recognise` say that it does nothing else.
-/

namespace Concordance

open CommandLine

/-! ## What is pending -/

namespace Pending

/-- What is recognised but not taken. -/
def items : Pending → List Item
  | nothing => []
  | awaiting _ => []
  | value setting text => [.setting setting text]
  | operand text => [.operand text]

/-- The option that still needs its value. -/
def needy : Pending → Option Setting
  | awaiting setting => some setting
  | _ => none

/-- Waits for the value of an option, if there is one that needs it. -/
def ofNeedy : Option Setting → Pending
  | none => nothing
  | some setting => awaiting setting

@[simp] lemma items_ofNeedy (needy : Option Setting) : (ofNeedy needy).items = [] := by
  cases needy <;> rfl

@[simp] lemma needy_ofNeedy (needy : Option Setting) : (ofNeedy needy).needy = needy := by
  cases needy <;> rfl

end Pending

namespace Scan

/-- A scan reaches another by one argument with options: what is pending is taken, then the items
of the argument, and the option at its end waits for its value. -/
def Takes (s : Scan) (items : List Item) (needy : Option Setting) (s' : Scan) : Prop :=
  ∃ settled draft, s.settle = .ok settled ∧ settled.takeAll items = .ok draft ∧
    s' = ⟨draft, .ofNeedy needy, s.onlyOperands⟩

variable {s s' : Scan} {item : Item} {items : List Item} {needy : Option Setting}
  {setting : Setting} {d : Draft}

lemma settle_eq_ok_iff :
    s.settle = .ok d ↔ s.pending.needy = none ∧ s.draft.takeAll s.pending.items = .ok d := by
  rcases s with ⟨draft, pending, only⟩
  cases pending with
  | awaiting _ => exact iff_of_false nofun fun h => nomatch h.1
  | nothing => exact (and_iff_right rfl).symm
  | value _ _ =>
      exact ⟨fun h => ⟨rfl, Draft.takeAll_singleton_iff.2 h⟩,
        fun h => Draft.takeAll_singleton_iff.1 h.2⟩
  | operand _ =>
      exact ⟨fun h => ⟨rfl, Draft.takeAll_singleton_iff.2 h⟩,
        fun h => Draft.takeAll_singleton_iff.1 h.2⟩

/-! ## One argument with options -/

lemma Takes.pending_eq (h : s.Takes items none s') : s'.pending = .nothing := by
  obtain ⟨_, _, _, _, rfl⟩ := h
  rfl

lemma takes_cons_iff : s.Takes (item :: items) needy s' ↔
    ∃ next, s.Takes [item] none next ∧ next.Takes items needy s' := by
  constructor
  · rintro ⟨settled, draft, settles, taken, rfl⟩
    obtain ⟨next, first, others⟩ := Draft.takeAll_cons_iff.1 taken
    exact ⟨_, ⟨settled, next, settles, Draft.takeAll_singleton_iff.2 first, rfl⟩,
      next, draft, rfl, others, rfl⟩
  · rintro ⟨_, ⟨settled, next, settles, first, rfl⟩, _, draft, ready, others, rfl⟩
    cases ready
    exact ⟨settled, draft, settles, Draft.takeAll_cons_iff.2
      ⟨next, Draft.takeAll_singleton_iff.1 first, others⟩, rfl⟩

/-- Takes an item, after what is pending. -/
def taking (s : Scan) (item : Item) : Except UsageFault Scan :=
  match s.settle with
  | .error fault => .error fault
  | .ok draft => (draft.take item).map fun draft => { s with draft := draft, pending := .nothing }

lemma taking_eq_ok_iff : s.taking item = .ok s' ↔ s.Takes [item] none s' := by
  rw [taking, Takes]
  cases s.settle with
  | error => exact iff_of_false nofun fun ⟨_, _, failed, _⟩ => nomatch failed
  | ok settled =>
      rw [Text.map_eq_ok_iff]
      constructor
      · rintro ⟨draft, taken, rfl⟩
        exact ⟨settled, draft, rfl, Draft.takeAll_singleton_iff.2 taken, rfl⟩
      · rintro ⟨_, draft, settles, taken, rfl⟩
        cases settles
        exact ⟨draft, Draft.takeAll_singleton_iff.1 taken, rfl⟩

lemma flag_eq_ok_iff {flag : Flag} : s.flag flag = .ok s' ↔ s.Takes [.flag flag] none s' :=
  @taking_eq_ok_iff s s' (.flag flag)

lemma glued_eq_ok_iff {value : List Char} :
    s.glued setting value = .ok s' ↔ s.Takes [.setting setting value] none s' :=
  @taking_eq_ok_iff s s' (.setting setting value)

lemma await_eq_ok_iff {pending : Pending} : s.await pending = .ok s' ↔
    ∃ draft, s.settle = .ok draft ∧ s' = ⟨draft, pending, s.onlyOperands⟩ := by
  rw [await, Text.map_eq_ok_iff]
  exact exists_congr fun _ => and_congr_right' eq_comm

lemma await_awaiting_iff : s.await (.awaiting setting) = .ok s' ↔ s.Takes [] (some setting) s' := by
  rw [await_eq_ok_iff]
  constructor
  · rintro ⟨draft, settles, rfl⟩
    exact ⟨draft, draft, settles, rfl, rfl⟩
  · rintro ⟨settled, draft, settles, taken, rfl⟩
    cases Draft.takeAll_nil_iff.1 taken
    exact ⟨settled, settles, rfl⟩

/-- Only the first letter meets what is pending, so without letters there must be nothing. -/
lemma cluster_of_takes {letters : List Char} (clusters : Clusters letters items needy)
    (ready : s.pending = .nothing ∨ letters ≠ []) (takes : s.Takes items needy s') :
    s.cluster letters = .ok s' := by
  induction clusters generalizing s with
  | nil =>
      obtain ⟨draft, pending, only⟩ := s
      obtain rfl := ready.resolve_right (absurd rfl)
      obtain ⟨_, _, settles, taken, rfl⟩ := takes
      cases settles
      cases Draft.takeAll_nil_iff.1 taken
      rfl
  | flag known _ ih =>
      obtain ⟨next, first, others⟩ := takes_cons_iff.1 takes
      simp only [cluster, known, flag_eq_ok_iff.2 first]
      exact ih (.inl first.pending_eq) others
  | bare known =>
      rw [cluster, known]
      exact await_awaiting_iff.2 takes
  | equals known =>
      rw [cluster, known]
      exact glued_eq_ok_iff.2 takes
  | glued known other =>
      simp only [cluster, known]
      split
      · rename_i same
        cases same
      · rename_i same
        cases same
        exact absurd rfl other
      · exact glued_eq_ok_iff.2 takes

lemma takes_of_cluster {letters : List Char} (ready : s.pending = .nothing ∨ letters ≠ [])
    (h : s.cluster letters = .ok s') :
    ∃ items needy, Clusters letters items needy ∧ s.Takes items needy s' := by
  induction letters generalizing s with
  | nil =>
      obtain ⟨draft, pending, only⟩ := s
      obtain rfl := ready.resolve_right (absurd rfl)
      cases h
      exact ⟨[], none, .nil, draft, draft, rfl, rfl, rfl⟩
  | cons letter rest ih =>
      rw [cluster] at h
      split at h
      · cases h
      · rename_i flag known
        split at h
        · cases h
        · rename_i next first
          have takes := flag_eq_ok_iff.1 first
          obtain ⟨items, needy, clusters, others⟩ := ih (.inl takes.pending_eq) h
          exact ⟨_, needy, .flag known clusters, takes_cons_iff.2 ⟨_, takes, others⟩⟩
      · rename_i setting known
        split at h
        · exact ⟨_, _, .bare known, await_awaiting_iff.1 h⟩
        · exact ⟨_, _, .equals known, glued_eq_ok_iff.1 h⟩
        · rename_i more other
          obtain ⟨first, value, rfl⟩ := List.exists_cons_of_ne_nil more
          exact ⟨_, _, .glued known fun same => other value (same ▸ rfl), glued_eq_ok_iff.1 h⟩

lemma long_of_takes {text : List Char} (names : Names text items needy)
    (takes : s.Takes items needy s') : s.long text = .ok s' := by
  cases names with
  | flag known =>
      have free := equals_not_mem_of_known known
      simp only [long, takeWhile_name_self free, dropWhile_name_self free, known]
      exact flag_eq_ok_iff.2 takes
  | bare known =>
      have free := equals_not_mem_of_known known
      simp only [long, takeWhile_name_self free, dropWhile_name_self free, known]
      exact await_awaiting_iff.2 takes
  | equals known =>
      have free := equals_not_mem_of_known known
      simp only [long, takeWhile_name free, dropWhile_name free, known]
      exact glued_eq_ok_iff.2 takes

lemma takes_of_long {text : List Char} (h : s.long text = .ok s') :
    ∃ items needy, Names text items needy ∧ s.Takes items needy s' := by
  have split : text = text.takeWhile (· != '=') ++ text.dropWhile (· != '=') :=
    List.takeWhile_append_dropWhile.symm
  have stop := List.head?_dropWhile_not (· != '=') text
  rw [split]
  simp only [long] at h
  generalize text.takeWhile (· != '=') = name at h ⊢
  generalize text.dropWhile (· != '=') = rest at h stop ⊢
  split at h
  · cases h
  · rename_i known
    rw [List.append_nil]
    exact ⟨_, _, .flag known, flag_eq_ok_iff.1 h⟩
  · cases h
  · rename_i known
    rw [List.append_nil]
    exact ⟨_, _, .bare known, await_awaiting_iff.1 h⟩
  · rename_i known
    obtain rfl : _ = '=' := by simpa using stop
    exact ⟨_, _, .equals known, glued_eq_ok_iff.1 h⟩

lemma recognise_long {text : List Char} (nonempty : text ≠ []) :
    s.recognise ('-' :: '-' :: text) = s.long text := by
  cases text with
  | nil => exact absurd rfl nonempty
  | cons => rfl

lemma recognise_letters {letter : Char} (other : letter ≠ '-') (rest : List Char) :
    s.recognise ('-' :: letter :: rest) = s.cluster (letter :: rest) := by
  rw [recognise]
  · exact fun same => other (List.cons.inj same).1
  · exact fun _ same => other (List.cons.inj same).1
  · exact fun same => nomatch same

lemma recognise_of_isPlain {arg : List Char} (plain : IsPlain arg) :
    s.recognise arg = s.plain arg := by
  by_cases hyphen : arg.head? = some '-'
  · rw [plain hyphen]
    rfl
  · rw [recognise]
    · rintro rfl
      exact hyphen rfl
    · rintro _ rfl
      exact hyphen rfl
    · rintro rfl
      exact hyphen rfl
    · rintro _ rfl
      exact hyphen rfl

lemma recognise_of_takes {arg : List Char} (spells : Spells arg items needy)
    (takes : s.Takes items needy s') : s.recognise arg = .ok s' := by
  cases spells with
  | long names =>
      rw [recognise_long fun empty => not_names_nil (empty ▸ names)]
      exact long_of_takes names takes
  | letters clusters =>
      rw [recognise_letters clusters.head_ne]
      exact cluster_of_takes clusters (.inr (List.cons_ne_nil _ _)) takes

lemma takes_of_recognise {arg : List Char} (options : ¬ IsPlain arg) (other : arg ≠ ['-', '-'])
    (h : s.recognise arg = .ok s') :
    ∃ items needy, Spells arg items needy ∧ s.Takes items needy s' := by
  obtain ⟨letter, rest, rfl⟩ := exists_of_not_isPlain options
  by_cases hyphen : letter = '-'
  · subst hyphen
    rw [recognise_long fun empty => other (empty ▸ rfl)] at h
    obtain ⟨items, needy, names, takes⟩ := takes_of_long h
    exact ⟨items, needy, .long names, takes⟩
  · rw [recognise_letters hyphen] at h
    obtain ⟨items, needy, clusters, takes⟩ := takes_of_cluster (.inr (List.cons_ne_nil _ _)) h
    exact ⟨items, needy, .letters clusters, takes⟩

end Scan
end Concordance
