import LendingRules.Draft.Basic
import LendingRules.Proofs.Reading.Entries
import LendingRules.Proofs.Reading.NestingStep
import LendingRules.Rulebook.OfText

namespace LendingRules

/-!
# Rulebooks that can be made

A rulebook is made from rule text or by finishing a draft. Whichever way it is
made, its rules stand on ever later lines, exactly one of them is the fallback,
and every other rule has criteria.
-/

/-- A rulebook that rule text or a draft can make. -/
inductive Rulebook.Made : Rulebook → Prop
  | ofText
      {text : String}
      {rulebook : Rulebook}
      (made : Rulebook.ofText text = .ok rulebook) :
      Made rulebook
  | ofDraft
      {calls : List DraftCall}
      {rulebook : Rulebook}
      (made : (Draft.ofCalls calls).finish = .ok rulebook) :
      Made rulebook

/-- What holds of the rules of every rulebook that can be made. -/
structure SoundRules (rules : List Rule) : Prop where
  ascending : rules.Pairwise fun first second => first.line < second.line
  oneFallback : rules.countP Rule.isFallback = 1
  criteria_ne_nil : ∀ rule ∈ rules, rule.isFallback = false → rule.criteria ≠ []

theorem SoundRules.fallback_unique
    {rules : List Rule}
    (sound : SoundRules rules)
    {first second : Rule}
    (firstMember : first ∈ rules)
    (secondMember : second ∈ rules)
    (firstFallback : first.isFallback = true)
    (secondFallback : second.isFallback = true) :
    first = second := by
  have one : (rules.filter Rule.isFallback).length = 1 := by
    rw [← List.countP_eq_length_filter]
    exact sound.oneFallback
  obtain ⟨fallback, only⟩ := List.length_eq_one_iff.mp one
  have onlyMember : ∀ rule ∈ rules, rule.isFallback = true → rule = fallback := by
    intro rule member marked
    have filtered : rule ∈ rules.filter Rule.isFallback :=
      List.mem_filter.mpr ⟨member, marked⟩
    simpa [only] using filtered
  rw [onlyMember first firstMember firstFallback,
    onlyMember second secondMember secondFallback]

namespace Entry

/-- Whether an entry that states criteria states at least one. -/
def IsFilled (entry : Entry) : Prop :=
  ∀ tokens list?, entry.clause = .criteria tokens list? → tokens ≠ []

theorem isFilled_of_standsIn
    {entry : Entry}
    {text : List Char}
    (stands : entry.StandsIn text) :
    entry.IsFilled := by
  intro tokens list? shape
  obtain ⟨index, characters, -, -, stated, -⟩ := stands.stands
  rw [shape] at stated
  exact Statement.criteria_ne_nil_of_ofLine stated

end Entry

namespace Nesting

variable {nesting next last : Nesting} {entry : Entry} {rule? : Option Rule}

/-- Whether an entry gives a rule, on its own line, and of which kind. -/
theorem rule_of_add
    (added : nesting.add entry = .ok (rule?, next))
    (filled : entry.IsFilled) :
    (rule? = none ∧ next.hasFallback = nesting.hasFallback) ∨
      (∃ rule, rule? = some rule ∧ rule.line = entry.line ∧
        rule.isFallback = true ∧
          nesting.hasFallback = false ∧ next.hasFallback = true) ∨
        (∃ rule, rule? = some rule ∧ rule.line = entry.line ∧
          rule.isFallback = false ∧ rule.criteria ≠ [] ∧
            next.hasFallback = nesting.hasFallback) := by
  rcases entry with ⟨line, indent, clause⟩
  cases clause with
  | fallback list =>
      obtain ⟨-, -, first, policies, -, rfl, rfl⟩ := add_fallback_eq_ok_iff.mp added
      exact Or.inr (Or.inl ⟨_, rfl, rfl, rfl, first, rfl⟩)
  | criteria tokens list? =>
      obtain ⟨-, criteria, extended, -, rfl, rfl⟩ := add_criteria_eq_ok_iff.mp added
      cases list? with
      | none => exact Or.inl ⟨rfl, rfl⟩
      | some list =>
          obtain ⟨-, -, -, rfl⟩ := CriterionToken.extend_eq_ok_iff.mp extended
          have present : tokens ≠ [] := filled tokens (some list) rfl
          refine Or.inr (Or.inr ⟨_, rfl, rfl, rfl, ?_, rfl⟩)
          simp [Rule.criteria, present]

/-- What entries give: rules on their lines, with the fallback that is noted. -/
structure Gathers
    (nesting : Nesting)
    (entries : List Entry)
    (rules : List Rule)
    (last : Nesting) : Prop where
  lines : (rules.map Rule.line).Sublist (entries.map Entry.line)
  fallbacks :
    rules.countP Rule.isFallback + nesting.hasFallback.toNat = last.hasFallback.toNat
  criteria_ne_nil : ∀ rule ∈ rules, rule.isFallback = false → rule.criteria ≠ []

theorem gathers_of_addAll
    {entries : List Entry}
    {rules : List Rule}
    (added : nesting.addAll entries = .ok (rules, last))
    (filled : ∀ entry ∈ entries, entry.IsFilled) :
    nesting.Gathers entries rules last := by
  induction entries generalizing nesting rules with
  | nil =>
      simp only [addAll, Except.ok.injEq, Prod.mk.injEq] at added
      obtain ⟨rfl, rfl⟩ := added
      exact ⟨.refl _, by simp, by simp⟩
  | cons entry rest inductionHypothesis =>
      obtain ⟨rule?, next, others, entryAdded, restAdded, rfl⟩ :=
        addAll_cons_eq_ok_iff.mp added
      have gathered := inductionHypothesis restAdded fun other member =>
        filled other (by simp [member])
      have fallbacks := gathered.fallbacks
      rcases rule_of_add entryAdded (filled entry (by simp)) with
        ⟨rfl, same⟩ | ⟨rule, rfl, line, fallback, before, after⟩ |
          ⟨rule, rfl, line, ordinary, present, same⟩
      · exact ⟨gathered.lines.cons entry.line, same ▸ fallbacks, gathered.criteria_ne_nil⟩
      · refine ⟨?_, ?_, ?_⟩
        · rw [List.map_cons, ← line]
          exact gathered.lines.cons_cons rule.line
        · rw [← fallbacks, before, after]
          simp [fallback]
        · simpa [fallback] using gathered.criteria_ne_nil
      · refine ⟨?_, ?_, ?_⟩
        · rw [List.map_cons, ← line]
          exact gathered.lines.cons_cons rule.line
        · rw [← fallbacks, same]
          simp [ordinary]
        · simpa [present] using gathered.criteria_ne_nil

end Nesting

/-- The rules of a document that was read from text are sound. -/
theorem Document.soundRules
    {text : String}
    {document : Document}
    {rules : List Rule}
    (read : Document.ofText text = .ok document)
    (made : document.rules = .ok rules) :
    SoundRules rules := by
  have filled : ∀ entry ∈ document.entries, entry.IsFilled := fun entry member =>
    Entry.isFilled_of_standsIn (Document.entry_standsIn read member)
  obtain ⟨last, added, -, fallback⟩ := Document.rules_eq_ok_iff.mp made
  have gathered := Nesting.gathers_of_addAll added filled
  have ascending :
      (document.entries.map Entry.line).Pairwise fun first second => first < second :=
    List.pairwise_map.mpr (Document.pairwise_entries read)
  exact
    { ascending := List.pairwise_map.mp (ascending.sublist gathered.lines)
      oneFallback := by simpa [Nesting.start, fallback] using gathered.fallbacks
      criteria_ne_nil := gathered.criteria_ne_nil }

namespace Draft

/-- What holds of a draft after any calls. -/
structure Sound (draft : Draft) : Prop where
  ascending : draft.rules.Pairwise fun first second => first.line < second.line
  ordinary : ∀ rule ∈ draft.rules, rule.isFallback = false ∧ rule.line < draft.nextLine
  fallback : ∀ rule ∈ draft.fallback?, rule.isFallback = true ∧ rule.line < draft.nextLine
  apart : ∀ fallback ∈ draft.fallback?, ∀ rule ∈ draft.rules, fallback.line ≠ rule.line

namespace Sound

theorem empty : Sound Draft.empty where
  ascending := .nil
  ordinary := by simp [Draft.empty]
  fallback := by simp [Draft.empty]
  apart := by simp [Draft.empty]

/-- Every call keeps a draft sound, since what it gives takes a line of its own. -/
theorem apply
    {draft : Draft}
    (sound : draft.Sound)
    (call : DraftCall) :
    (draft.apply call).Sound := by
  cases call with
  | ranking ranking =>
      exact ⟨sound.ascending, sound.ordinary, sound.fallback, sound.apart⟩
  | fallback policies =>
      refine ⟨sound.ascending, ?_, ?_, ?_⟩
      · intro rule member
        have before := sound.ordinary rule member
        exact ⟨before.1, Nat.lt_succ_of_lt before.2⟩
      · intro rule given
        cases Option.mem_def.mp given
        exact ⟨rfl, Nat.lt_succ_self _⟩
      · intro fallback given rule member
        cases Option.mem_def.mp given
        exact (Nat.ne_of_lt (sound.ordinary rule member).2).symm
  | rule criteria policies =>
      refine ⟨?_, ?_, ?_, ?_⟩
      · refine List.pairwise_append.mpr ⟨sound.ascending, by simp, ?_⟩
        intro rule member new newMember
        cases List.mem_singleton.mp newMember
        exact (sound.ordinary rule member).2
      · intro rule member
        rcases List.mem_append.mp member with old | new
        · have before := sound.ordinary rule old
          exact ⟨before.1, Nat.lt_succ_of_lt before.2⟩
        · cases List.mem_singleton.mp new
          exact ⟨rfl, Nat.lt_succ_self _⟩
      · intro rule given
        have before := sound.fallback rule given
        exact ⟨before.1, Nat.lt_succ_of_lt before.2⟩
      · intro fallback given rule member
        rcases List.mem_append.mp member with old | new
        · exact sound.apart fallback given rule old
        · cases List.mem_singleton.mp new
          exact Nat.ne_of_lt (sound.fallback fallback given).2

theorem foldl
    {draft : Draft}
    (sound : draft.Sound)
    (calls : List DraftCall) :
    (calls.foldl Draft.apply draft).Sound := by
  induction calls generalizing draft with
  | nil => exact sound
  | cons call rest inductionHypothesis => exact inductionHypothesis (sound.apply call)

theorem ofCalls (calls : List DraftCall) : (Draft.ofCalls calls).Sound :=
  Sound.empty.foldl calls

end Sound

/-- A draft is finished when it has a fallback and no rule has a flaw. -/
theorem finish_eq_ok_iff {draft : Draft} {rulebook : Rulebook} :
    draft.finish = .ok rulebook ↔
      ∃ fallback, draft.fallback? = some fallback ∧
        fallback.flaw? = none ∧
          (∀ rule ∈ draft.rules, rule.flaw? = none) ∧
            rulebook = .ofRules draft.ranking draft.inOrder (.ofText draft.text) := by
  have checkWritable_eq_ok_iff (rule : Rule) :
      rule.checkWritable = .ok () ↔ rule.flaw? = none := by
    unfold Rule.checkWritable
    cases rule.flaw? <;> simp
  unfold finish
  cases given : draft.fallback? with
  | none => simp
  | some fallback =>
      simp only [bind_eq_ok_iff, List.forM_eq_forM, pure, Except.pure, Except.ok.injEq,
        Option.some.injEq]
      constructor
      · intro finished
        rcases finished with ⟨⟨⟩, fallbackChecked, ⟨⟩, rulesChecked, rfl⟩
        refine ⟨fallback, rfl, (checkWritable_eq_ok_iff fallback).mp fallbackChecked, ?_, rfl⟩
        intro rule member
        have checked := forM_eq_ok_iff.mp rulesChecked rule member
        exact (checkWritable_eq_ok_iff rule).mp checked
      · intro flawless
        rcases flawless with ⟨_, rfl, fallbackFlawless, rulesFlawless, rfl⟩
        have checked : forM draft.rules Rule.checkWritable = .ok () :=
          forM_eq_ok_iff.mpr fun rule member =>
            (checkWritable_eq_ok_iff rule).mpr (rulesFlawless rule member)
        exact ⟨(), (checkWritable_eq_ok_iff _).mpr fallbackFlawless, (), checked, rfl⟩

theorem inOrder_perm (draft : Draft) :
    draft.inOrder.Perm (draft.rules ++ draft.fallback?.toList) :=
  List.mergeSort_perm _ _

/-- All rules of a sound draft stand on different lines. -/
theorem Sound.nodup_lines
    {draft : Draft}
    (sound : draft.Sound) :
    ((draft.rules ++ draft.fallback?.toList).map Rule.line).Nodup := by
  have ascending : (draft.rules.map Rule.line).Nodup :=
    List.pairwise_map.mpr (sound.ascending.imp Nat.ne_of_lt)
  cases given : draft.fallback? with
  | none => simpa using ascending
  | some fallback =>
      rw [List.map_append, List.nodup_append]
      refine ⟨ascending, by simp, ?_⟩
      intro line member other otherMember
      obtain ⟨rule, ruleMember, rfl⟩ := List.mem_map.mp member
      have fallbackLine : other = fallback.line := by simpa using otherMember
      rw [fallbackLine]
      exact (sound.apart fallback given rule ruleMember).symm

/-- In order, the rules of a sound draft stand on ever later lines. -/
theorem Sound.pairwise_inOrder
    {draft : Draft}
    (sound : draft.Sound) :
    draft.inOrder.Pairwise fun first second => first.line < second.line := by
  have sorted :
      draft.inOrder.Pairwise fun first second =>
        decide (first.line ≤ second.line) = true := by
    apply List.pairwise_mergeSort
    · intro first second third firstSecond secondThird
      simp only [decide_eq_true_eq] at firstSecond secondThird ⊢
      exact Nat.le_trans firstSecond secondThird
    · intro first second
      simpa using Nat.le_total first.line second.line
  have distinct :
      draft.inOrder.Pairwise fun first second => first.line ≠ second.line := by
    have lines := ((draft.inOrder_perm.map Rule.line).nodup_iff).mpr sound.nodup_lines
    exact List.pairwise_map.mp lines
  refine (sorted.and distinct).imp fun apart => ?_
  exact Nat.lt_of_le_of_ne (by simpa using apart.1) apart.2

theorem criteria_ne_nil_of_flaw?
    {rule : Rule}
    (flawless : rule.flaw? = none)
    (ordinary : rule.isFallback = false) :
    rule.criteria ≠ [] := by
  intro unconstrained
  simp [Rule.flaw?, ordinary, unconstrained] at flawless

/-- The rules of a finished draft are sound. -/
theorem Sound.soundRules
    {draft : Draft}
    {rulebook : Rulebook}
    (sound : draft.Sound)
    (finished : draft.finish = .ok rulebook) :
    SoundRules draft.inOrder := by
  obtain ⟨fallback, given, -, flawless, -⟩ := finish_eq_ok_iff.mp finished
  have marked := (sound.fallback fallback given).1
  have noOther : draft.rules.countP Rule.isFallback = 0 := by
    rw [List.countP_eq_zero]
    intro rule member
    simp [(sound.ordinary rule member).1]
  have members : ∀ rule ∈ draft.inOrder, rule ∈ draft.rules ∨ rule = fallback := by
    intro rule member
    simpa [given] using draft.inOrder_perm.mem_iff.mp member
  refine ⟨sound.pairwise_inOrder, ?_, ?_⟩
  · rw [draft.inOrder_perm.countP_eq, List.countP_append, noOther, given]
    simp [marked]
  · intro rule member ordinary
    rcases members rule member with drafted | rfl
    · exact criteria_ne_nil_of_flaw? (flawless rule drafted) ordinary
    · simp [marked] at ordinary

end Draft

namespace Rulebook

/-- A rulebook that can be made ranks sound rules. -/
theorem Made.soundRules
    {rulebook : Rulebook}
    (made : rulebook.Made) :
    SoundRules rulebook.rules ∧
      rulebook.index = .build rulebook.ranking rulebook.rules := by
  cases made with
  | ofText compiled =>
      obtain ⟨document, ranking, rules, read, -, resolved, rfl⟩ :=
        ofText_eq_ok_iff.mp compiled
      exact ⟨Document.soundRules read resolved, rfl⟩
  | ofDraft finished =>
      have sound := (Draft.Sound.ofCalls _).soundRules finished
      obtain ⟨fallback, -, -, -, rfl⟩ := Draft.finish_eq_ok_iff.mp finished
      exact ⟨sound, rfl⟩

end Rulebook

end LendingRules
