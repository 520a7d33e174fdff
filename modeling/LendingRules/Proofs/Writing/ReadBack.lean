import LendingRules.Proofs.Writing.RankingLine

namespace LendingRules

/-!
# Written rules read back

The text of writable rules under a ranking has the ranking on its first line and
then one rule on each line. Whatever rulebook is read from it therefore has that
ranking and those rules, each on the line on which it was written.
-/

/-- Rules on ever later lines, the first of them on the given one. -/
def onLinesFrom : Nat → List Rule → List Rule
  | _, [] => []
  | next, rule :: rest => { rule with line := next } :: onLinesFrom (next + 1) rest

/-- The text of some rules is their lines, each ended by a line feed. -/
theorem toList_writtenRules
    (ranking : Ranking)
    (rules : List Rule) :
    (writtenRules ranking rules).toList =
      (ranking.lineCharacters :: rules.map fun rule => rule.text.toList).flatMap
        fun line => line ++ ['\n'] := by
  have opening : "priority: ".toList = Statement.rankingWord ++ [':', ' '] := rfl
  have newline : "\n".toList = ['\n'] := rfl
  simp only [writtenRules, Ranking.lineCharacters, String.toList_append, String.toList_join,
    opening, newline, List.flatMap_cons, List.flatMap_map, List.append_assoc,
    List.cons_append, List.nil_append]

namespace Entry

/-- Whether an entry stands unindented, is accepted and gives a rule by itself. -/
structure Gives (entry : Entry) (rule : Rule) : Prop where
  unindented : entry.indent = 0
  accepted : entry.clause.Accepted
  rule?_eq : entry.clause.rule? entry.line = some rule

/-- The line of a writable rule is read as an entry that gives the rule, on that line. -/
theorem exists_gives_of_text
    {rule : Rule}
    (writable : rule.Writable)
    (number : Nat) :
    ∃ entry, NumberedLine.entry ⟨number, rule.text.toList⟩ = .ok entry ∧
      entry.Gives { rule with line := number } := by
  obtain ⟨clause, stated, accepted, gives⟩ := Statement.ofLine_text writable
  have plain : IsPlain (NumberedLine.mk number rule.text.toList).characters :=
    writable.isPlain_text
  have read :
      NumberedLine.entry ⟨number, rule.text.toList⟩ = .ok ⟨number, 0, clause⟩ :=
    NumberedLine.entry_eq_ok_iff.mpr ⟨stated, rfl, plain.indent_eq.symm⟩
  exact ⟨⟨number, 0, clause⟩, read, rfl, accepted, gives number⟩

theorem exists_gives_of_texts
    {rules : List Rule}
    (next : Nat)
    (writable : ∀ rule ∈ rules, rule.Writable) :
    ∃ entries,
      List.Forall₂ (fun line entry => line.entry = .ok entry)
          (numberedFrom next (rules.map fun rule => rule.text.toList)) entries ∧
        List.Forall₂ Gives entries (onLinesFrom next rules) := by
  induction rules generalizing next with
  | nil => exact ⟨[], .nil, .nil⟩
  | cons rule others inductionHypothesis =>
      obtain ⟨ruleWritable, othersWritable⟩ := List.forall_mem_cons.mp writable
      obtain ⟨entry, read, gives⟩ := exists_gives_of_text ruleWritable next
      obtain ⟨entries, othersRead, give⟩ := inductionHypothesis (next + 1) othersWritable
      exact ⟨entry :: entries, .cons read othersRead, .cons gives give⟩

end Entry

namespace Nesting

variable {nesting next last : Nesting}

/-- An unindented entry inherits nothing. -/
theorem rule?_eq_of_add
    {entry : Entry}
    {rule : Rule}
    {rule? : Option Rule}
    (gives : entry.Gives rule)
    (added : nesting.add entry = .ok (rule?, next)) :
    rule? = some rule := by
  rw [← gives.rule?_eq]
  rcases entry with ⟨line, indent, clause⟩
  cases (gives.unindented : indent = 0)
  cases clause with
  | fallback list =>
      obtain ⟨-, -, -, policies, accepted, rfl, -⟩ := add_fallback_eq_ok_iff.mp added
      obtain ⟨-, -, rfl⟩ := PolicyList.policies_eq_ok_iff.mp accepted
      rfl
  | criteria tokens list? =>
      obtain ⟨-, criteria, extended, -, rfl, -⟩ := add_criteria_eq_ok_iff.mp added
      obtain ⟨-, -, -, rfl⟩ := CriterionToken.extend_eq_ok_iff.mp extended
      have outermost : nesting.openAt 0 = [] := by simp [openAt]
      rw [outermost]
      rfl

/-- Unindented entries give their rules and no others. -/
theorem rules_eq_of_addAll
    {entries : List Entry}
    {rules made : List Rule}
    (give : List.Forall₂ Entry.Gives entries rules)
    (added : nesting.addAll entries = .ok (made, last)) :
    made = rules := by
  induction give generalizing nesting made with
  | nil =>
      simp only [addAll, Except.ok.injEq, Prod.mk.injEq] at added
      exact added.1.symm
  | cons gives rest inductionHypothesis =>
      obtain ⟨rule?, next, others, entryAdded, restAdded, rfl⟩ :=
        addAll_cons_eq_ok_iff.mp added
      rw [rule?_eq_of_add gives entryAdded, inductionHypothesis restAdded]
      rfl

end Nesting

namespace Document

/-- Written rules are read as the items of the ranking and entries that give the rules. -/
theorem exists_of_writtenRules
    (ranking : Ranking)
    {rules : List Rule}
    (writable : ∀ rule ∈ rules, rule.Writable) :
    ∃ document, Document.ofText (writtenRules ranking rules) = .ok document ∧
      List.Forall₂ RankingItem.StandsFor document.rankingItems ranking.keys ∧
        List.Forall₂ Entry.Gives document.entries (onLinesFrom 2 rules) := by
  have plain :
      ∀ line ∈ ranking.lineCharacters :: rules.map fun rule => rule.text.toList,
        IsPlain line := by
    intro line member
    rcases List.mem_cons.mp member with same | written
    · exact same ▸ ranking.isPlain_lineCharacters
    · obtain ⟨rule, ruleMember, rfl⟩ := List.mem_map.mp written
      exact (writable rule ruleMember).isPlain_text
  obtain ⟨items, stated, stand⟩ := ranking.ofLine_lineCharacters
  obtain ⟨entries, entriesRead, give⟩ := Entry.exists_gives_of_texts 2 writable
  have read :
      Document.ofText (writtenRules ranking rules) =
        .ok { rankingLine := 1, rankingItems := items, entries } := by
    rw [ofText_eq_ok_iff, toList_writtenRules]
    exact ⟨firstTab?_flatMap plain, _, _, statementLines_flatMap plain,
      NumberedLine.statement_eq_ok_iff.mpr stated, rfl, entriesRead⟩
  exact ⟨_, read, stand, give⟩

end Document

namespace Rulebook

/-- What is read from written rules is the ranking and the rules on their lines. -/
theorem eq_of_ofText_writtenRules
    {ranking : Ranking}
    {rules : List Rule}
    {read : Rulebook}
    (writable : ∀ rule ∈ rules, rule.Writable)
    (compiled : ofText (writtenRules ranking rules) = .ok read) :
    read = .ofRules ranking (onLinesFrom 2 rules) (.ofText (writtenRules ranking rules)) := by
  obtain ⟨document, declared, made, documentRead, ranked, resolved, rfl⟩ :=
    ofText_eq_ok_iff.mp compiled
  obtain ⟨written, writtenRead, stand, give⟩ :=
    Document.exists_of_writtenRules ranking writable
  cases documentRead.symm.trans writtenRead
  obtain ⟨last, added, -, -⟩ := Document.rules_eq_ok_iff.mp resolved
  rw [Document.ranking_eq stand ranked, Nesting.rules_eq_of_addAll give added]

end Rulebook

end LendingRules
