import LendingRules.Proofs.Reading.Flattening
import LendingRules.Proofs.Reading.LineFaults

namespace LendingRules

/-!
# Faults of one entry among the others

The walk down the entries checks an entry against the frames that are open, not
against the entries around it. The two come to the same: the innermost frame
left open holds the criteria of all enclosers, and a fallback has been taken in
when one stands further up.
-/

namespace Nesting

/-- What is wrong with an entry that is taken in with just its enclosers open. -/
def EntryFault (nesting : Nesting) (entry : Entry) (problem : RuleProblem) : Prop :=
  match entry.clause with
  | .fallback list =>
      0 < entry.indent ∧ problem = .indentedFallback ∨
        nesting.hasFallback = true ∧ problem = .repeatedFallback ∨ list.Fault problem
  | .criteria tokens list? =>
      CriterionToken.ExtensionFault (Frame.inherited nesting.frames) tokens problem ∨
        ∃ list, list? = some list ∧ list.Fault problem

theorem judges_addFallback
    (nesting : Nesting)
    (entry : Entry)
    (list : PolicyList) :
    Judges (nesting.addFallback entry list) entry.line fun problem =>
      0 < entry.indent ∧ problem = .indentedFallback ∨
        nesting.hasFallback = true ∧ problem = .repeatedFallback ∨ list.Fault problem := by
  unfold addFallback
  by_cases indented : 0 < entry.indent
  · rw [if_pos indented]
    exact ⟨by simp [indented], by simp⟩
  · rw [if_neg indented]
    by_cases given : nesting.hasFallback = true
    · rw [if_pos given]
      exact ⟨by simp [given], by simp⟩
    · rw [if_neg given]
      have judges := (list.judges_policies entry.line).map fun policies =>
        (some (⟨.fallback, policies, entry.line⟩ : Rule), { nesting with hasFallback := true })
      simpa [indented, given] using judges

theorem judges_addCriteria
    (nesting : Nesting)
    (entry : Entry)
    (tokens : List CriterionToken)
    (list? : Option PolicyList) :
    Judges (nesting.addCriteria entry tokens list?) entry.line fun problem =>
      CriterionToken.ExtensionFault (Frame.inherited nesting.frames) tokens problem ∨
        ∃ list, list? = some list ∧ list.Fault problem := by
  unfold addCriteria
  refine (CriterionToken.judges_extend _ _ _).bind fun criteria _ => ?_
  cases list? with
  | none => exact ⟨by simp [bind, Except.bind, pure, Except.pure], by simp⟩
  | some list =>
      simp only [bind_pure_comp, Option.some.injEq, exists_eq_left']
      exact (list.judges_policies entry.line).map _

/-- An entry is taken in unless it has a fault. -/
theorem judges_entry (nesting : Nesting) (entry : Entry) :
    Judges
      (match entry.clause with
      | .fallback list => nesting.addFallback entry list
      | .criteria tokens list? => nesting.addCriteria entry tokens list?)
      entry.line (nesting.EntryFault entry) := by
  unfold EntryFault
  split
  · exact nesting.judges_addFallback entry _
  · exact nesting.judges_addCriteria entry _ _

end Nesting

namespace Entry

variable {entries : List Entry} {position line indent : Nat} {problem : RuleProblem}

theorem mem_take_iff {entry : Entry} :
    entry ∈ entries.take position ↔
      ∃ earlier, earlier < position ∧ entries[earlier]? = some entry := by
  simp [List.mem_iff_getElem?, List.getElem?_take]

/-- All that can be wrong with the fallback. -/
theorem fault_fallback_iff
    {list : PolicyList}
    (stands : entries[position]? = some ⟨line, indent, .fallback list⟩) :
    Fault entries position problem ↔
      0 < indent ∧ problem = .indentedFallback ∨
        (entries.take position).any isFallback = true ∧ problem = .repeatedFallback ∨
          list.Fault problem := by
  constructor
  · intro fault
    cases fault with
    | indentedFallback here fallback indented =>
        cases stands.symm.trans here
        exact .inl ⟨indented, rfl⟩
    | repeatedFallback here fallback before earlierStands earlierFallback =>
        have taken := mem_take_iff.mpr ⟨_, before, earlierStands⟩
        exact .inr (.inl ⟨List.any_eq_true.mpr ⟨_, taken, earlierFallback⟩, rfl⟩)
    | policies here carries fault =>
        cases stands.symm.trans here
        cases carries
        exact .inr (.inr fault)
    | repeatedOnLine here | repeatedInside here | mixedNegation here | emptyHeader here =>
        cases stands.symm.trans here
  · rintro (⟨indented, rfl⟩ | ⟨given, rfl⟩ | fault)
    · exact .indentedFallback stands rfl indented
    · obtain ⟨earlierEntry, taken, earlierFallback⟩ := List.any_eq_true.mp given
      obtain ⟨earlier, before, earlierStands⟩ := mem_take_iff.mp taken
      exact .repeatedFallback stands rfl before earlierStands earlierFallback
    · exact .policies stands rfl fault

/-- All that can be wrong with a line of criteria, given the chain of its enclosers. -/
theorem fault_criteria_iff
    {tokens : List CriterionToken}
    {list? : Option PolicyList}
    {chain : List Nat}
    (stands : entries[position]? = some ⟨line, indent, .criteria tokens list?⟩)
    (enclosers : Enclosers entries position chain) :
    Fault entries position problem ↔
      CriterionToken.ExtensionFault (chain.flatMap (criteriaAt entries)) tokens problem ∨
        (∃ list, list? = some list ∧ list.Fault problem) ∨
          problem = .policyMissing ∧ list? = none ∧
            ∀ next, entries[position + 1]? = some next → next.indent ≤ indent := by
  constructor
  · intro fault
    cases fault with
    | indentedFallback here fallback | repeatedFallback here fallback =>
        cases stands.symm.trans here
        cases fallback
    | policies here carries fault =>
        cases stands.symm.trans here
        exact .inr (.inl ⟨_, carries, fault⟩)
    | repeatedOnLine here twice =>
        cases stands.symm.trans here
        exact .inl (.repeatedOnLine twice)
    | repeatedInside here own otherEnclosers around there =>
        cases stands.symm.trans here
        cases otherEnclosers.unique enclosers
        refine .inl (.repeatedInside own ?_)
        obtain ⟨criterion, member, same⟩ := List.mem_map.mp there
        exact List.mem_map.mpr ⟨criterion, List.mem_flatMap.mpr ⟨_, around, member⟩, same⟩
    | mixedNegation here member mixed =>
        cases stands.symm.trans here
        exact .inl (.mixedNegation member mixed)
    | emptyHeader here unfollowed =>
        cases stands.symm.trans here
        exact .inr (.inr ⟨rfl, rfl, unfollowed⟩)
  · rintro (fault | ⟨list, rfl, fault⟩ | ⟨rfl, rfl, unfollowed⟩)
    · cases fault with
      | repeatedOnLine twice => exact .repeatedOnLine stands twice
      | repeatedInside here there =>
          obtain ⟨criterion, member, same⟩ := List.mem_map.mp there
          obtain ⟨outer, around, member⟩ := List.mem_flatMap.mp member
          exact .repeatedInside stands here enclosers around
            (List.mem_map.mpr ⟨criterion, member, same⟩)
      | mixedNegation member mixed => exact .mixedNegation stands member mixed
    · exact .policies stands rfl fault
    · exact .emptyHeader stands unfollowed

/-- Only a header is told that its policies are missing. -/
theorem unfollowed_of_fault
    (fault : Fault entries position .policyMissing) :
    ∃ line indent tokens,
      entries[position]? = some ⟨line, indent, .criteria tokens none⟩ ∧
        ∀ next, entries[position + 1]? = some next → next.indent ≤ indent := by
  cases fault with
  | policies stands carries fault => cases fault
  | emptyHeader stands unfollowed => exact ⟨_, _, _, stands, unfollowed⟩

end Entry

end LendingRules
