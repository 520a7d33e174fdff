import LendingRules.Proofs.Layout.Restating
import LendingRules.Proofs.Reading.LineFaults
import LendingRules.Proofs.Writing.Renumbering

namespace LendingRules

/-!
# Documents on other lines

Where a statement stands decides neither whether it is accepted nor what it
means. So a document whose entries moved to other lines declares the same ranking,
and at every step of resolving its indentation the same frames are open; its
rules are the same rules, on the lines of the entries that give them.
-/

section Lines

variable {line : Nat} (moved : Nat)

/-- Letters are accepted on any line or on none. -/
theorem LetterList.precedence_of_line
    {list : LetterList}
    {order : Precedence}
    (accepted : list.precedence line = .ok order) :
    list.precedence moved = .ok order := by
  unfold precedence at accepted ⊢
  dsimp only at accepted ⊢
  split at accepted
  · cases accepted
  · rename_i short
    rw [if_neg short]
    split at accepted
    · cases accepted
    · split at accepted
      · exact accepted
      · cases accepted

theorem RankingItem.key_of_line
    {item : RankingItem}
    {key : RankingKey}
    (accepted : item.key line = .ok key) :
    item.key moved = .ok key := by
  unfold RankingItem.key at accepted ⊢
  split at accepted
  · obtain ⟨order, read, rfl⟩ := map_eq_ok_iff.mp accepted
    exact map_eq_ok_iff.mpr ⟨order, LetterList.precedence_of_line moved read, rfl⟩
  · obtain ⟨order, read, rfl⟩ := map_eq_ok_iff.mp accepted
    exact map_eq_ok_iff.mpr ⟨order, LetterList.precedence_of_line moved read, rfl⟩
  · exact accepted
  · exact accepted

theorem CriterionToken.extend_of_line
    {inherited criteria : List Criterion}
    {tokens : List CriterionToken}
    (extended : extend line inherited tokens = .ok criteria) :
    extend moved inherited tokens = .ok criteria :=
  extend_eq_ok_iff.mpr (extend_eq_ok_iff.mp extended)

theorem PolicyList.policies_of_line
    {list : PolicyList}
    {policies : Policies}
    (accepted : list.policies line = .ok policies) :
    list.policies moved = .ok policies :=
  policies_eq_ok_iff.mpr (policies_eq_ok_iff.mp accepted)

end Lines

variable (renumber : Nat → Nat)

/-- The entry on another line. -/
def Entry.renumbered (entry : Entry) : Entry :=
  { entry with line := renumber entry.line }

/-- The frame of the line that moved. -/
def Frame.renumbered (frame : Frame) : Frame :=
  { frame with line := renumber frame.line }

/-- The open frames of lines that moved. -/
def Nesting.renumbered (nesting : Nesting) : Nesting :=
  { nesting with frames := nesting.frames.map (Frame.renumbered renumber) }

/-- The document on other lines. -/
def Document.renumbered (document : Document) : Document where
  rankingLine := renumber document.rankingLine
  rankingItems := document.rankingItems
  entries := document.entries.map (Entry.renumbered renumber)

namespace Frame

theorem inherited_renumbered (frames : List Frame) :
    inherited (frames.map (Frame.renumbered renumber)) = inherited frames := by
  cases frames <;> rfl

theorem markNested_renumbered (frames : List Frame) :
    markNested (frames.map (Frame.renumbered renumber)) =
      (markNested frames).map (Frame.renumbered renumber) := by
  cases frames <;> rfl

/-- Frames close in their new place when they do in the old one. -/
theorem not_childless_renumbered
    {frames : List Frame}
    (closed : ∀ frame ∈ frames, ¬ frame.Childless) :
    ∀ frame ∈ frames.map (Frame.renumbered renumber), ¬ frame.Childless :=
  List.forall_mem_map.mpr closed

end Frame

namespace Nesting

theorem openAt_renumbered (nesting : Nesting) (indent : Nat) :
    (nesting.renumbered renumber).openAt indent =
      (nesting.openAt indent).map (Frame.renumbered renumber) :=
  List.dropWhile_map

theorem ruleOf?_renumbered
    (criteria : List Criterion)
    (line : Nat)
    (list? : Option PolicyList) :
    ruleOf? criteria (renumber line) list? =
      (ruleOf? criteria line list?).map (Rule.renumbered renumber) := by
  cases list? <;> rfl

variable {nesting next last : Nesting} {entry : Entry} {rule? : Option Rule}

/-- An entry is taken in on another line as it is on its own. -/
theorem add_renumbered
    (added : nesting.add entry = .ok (rule?, next)) :
    (nesting.renumbered renumber).add (entry.renumbered renumber) =
      .ok (rule?.map (Rule.renumbered renumber), next.renumbered renumber) := by
  obtain ⟨line, indent, clause⟩ := entry
  cases clause with
  | fallback list =>
      obtain ⟨unindented, closed, once, policies, accepted, rfl, rfl⟩ :=
        add_fallback_eq_ok_iff.mp added
      exact add_fallback_eq_ok_iff.mpr
        ⟨unindented, Frame.not_childless_renumbered renumber closed, once, policies,
          PolicyList.policies_of_line _ accepted, rfl, rfl⟩
  | criteria tokens list? =>
      obtain ⟨closed, criteria, extended, accepted, rfl, rfl⟩ :=
        add_criteria_eq_ok_iff.mp added
      refine add_criteria_eq_ok_iff.mpr ⟨?_, criteria, ?_, ?_, ?_, ?_⟩
      · have kept :
            ((nesting.renumbered renumber).frames.takeWhile fun frame =>
                indent ≤ frame.indent) =
              (nesting.frames.takeWhile fun frame => indent ≤ frame.indent).map
                (Frame.renumbered renumber) := List.takeWhile_map
        rw [kept]
        exact Frame.not_childless_renumbered renumber closed
      · rw [openAt_renumbered, Frame.inherited_renumbered]
        exact CriterionToken.extend_of_line _ extended
      · intro list member
        obtain ⟨policies, listAccepted⟩ := accepted list member
        exact ⟨policies, PolicyList.policies_of_line _ listAccepted⟩
      · exact (ruleOf?_renumbered renumber criteria line list?).symm
      · rw [openAt_renumbered, Frame.markNested_renumbered]
        rfl

/-- Entries on other lines give the rules on other lines. -/
theorem addAll_renumbered
    {entries : List Entry}
    {rules : List Rule}
    (added : nesting.addAll entries = .ok (rules, last)) :
    (nesting.renumbered renumber).addAll (entries.map (Entry.renumbered renumber)) =
      .ok (rules.map (Rule.renumbered renumber), last.renumbered renumber) := by
  induction entries generalizing nesting rules with
  | nil =>
      cases added
      rfl
  | cons entry rest inductionHypothesis =>
      obtain ⟨rule?, next, others, entryAdded, restAdded, rfl⟩ := addAll_cons_eq_ok_iff.mp added
      refine addAll_cons_eq_ok_iff.mpr
        ⟨_, _, _, add_renumbered renumber entryAdded, inductionHypothesis restAdded, ?_⟩
      rw [List.map_append, Option.toList_map]

end Nesting

namespace Document

variable {document : Document}

theorem rules_renumbered
    {rules : List Rule}
    (made : document.rules = .ok rules) :
    (document.renumbered renumber).rules = .ok (rules.map (Rule.renumbered renumber)) := by
  obtain ⟨last, added, closed, given⟩ := rules_eq_ok_iff.mp made
  exact rules_eq_ok_iff.mpr
    ⟨last.renumbered renumber, Nesting.addAll_renumbered renumber added,
      Frame.not_childless_renumbered renumber closed, given⟩

theorem ranking_renumbered
    {declared : Ranking}
    (ranked : document.ranking = .ok declared) :
    (document.renumbered renumber).ranking = .ok declared := by
  have sameItems : (document.renumbered renumber).rankingItems = document.rankingItems := rfl
  unfold ranking at ranked ⊢
  rw [sameItems]
  split at ranked
  · obtain ⟨order, read, rfl⟩ := map_eq_ok_iff.mp ranked
    exact map_eq_ok_iff.mpr ⟨order, LetterList.precedence_of_line _ read, rfl⟩
  · obtain ⟨keys, read, rfl⟩ := map_eq_ok_iff.mp ranked
    obtain ⟨made, accepted⟩ := RankingItem.keysAfter_eq_ok_iff.mp read
    have movedMade :=
      made.imp fun item key => RankingItem.key_of_line (renumber document.rankingLine)
    exact map_eq_ok_iff.mpr
      ⟨keys, RankingItem.keysAfter_eq_ok_iff.mpr ⟨movedMade, accepted⟩, rfl⟩

/-- A ranking is only declared with letters wherever letters belong. -/
theorem hasLetters_of_ranking
    {declared : Ranking}
    (ranked : document.ranking = .ok declared) :
    (Statement.ranking document.rankingItems).HasLetters := by
  have present
      {list : LetterList}
      {order : Precedence}
      (read : list.precedence document.rankingLine = .ok order) :
      list.letters ≠ [] := by
    intro none
    have facets := LetterList.facets_of_precedence_eq_ok read
    have all := order.facets_perm.length_eq
    rw [facets, none] at all
    cases all
  unfold ranking at ranked
  split at ranked
  · rename_i alone
    obtain ⟨order, read, rfl⟩ := map_eq_ok_iff.mp ranked
    rw [alone]
    intro item member list isLetters
    cases List.mem_singleton.mp member
    cases isLetters
    exact present read
  · obtain ⟨keys, read, rfl⟩ := map_eq_ok_iff.mp ranked
    obtain ⟨made, -⟩ := RankingItem.keysAfter_eq_ok_iff.mp read
    intro item member list isLetters
    obtain ⟨key, -, accepted⟩ := exists_related_of_mem made.flip member
    unfold RankingItem.key at accepted
    rw [isLetters] at accepted
    obtain ⟨order, listRead, -⟩ := map_eq_ok_iff.mp accepted
    exact present listRead

/-- Lines that state the same under other numbers make the same entries under other numbers. -/
theorem entries_of_restates
    {lines edited : List NumberedLine}
    {entries : List Entry}
    (restates : List.Forall₂ (NumberedLine.Restates renumber) lines edited)
    (read : List.Forall₂ (fun line entry => line.entry = .ok entry) lines entries) :
    List.Forall₂ (fun line entry => line.entry = .ok entry) edited
      (entries.map (Entry.renumbered renumber)) := by
  induction restates generalizing entries with
  | nil =>
      cases read
      exact .nil
  | cons first others inductionHypothesis =>
      cases read with
      | cons entryRead othersRead =>
          rw [NumberedLine.entry_eq_ok_iff_derives] at entryRead
          refine .cons ?_ (inductionHypothesis othersRead)
          rw [NumberedLine.entry_eq_ok_iff_derives]
          refine ⟨first.states _ trivial entryRead.states, ?_, ?_⟩
          · rw [first.number, ← entryRead.line]
            rfl
          · rw [first.indent, ← entryRead.indent]
            rfl

/-- A text that states the same on other lines reads as the same document on other lines. -/
theorem ofText_of_restates
    {text edited : String}
    (read : ofText text = .ok document)
    (hasLetters : (Statement.ranking document.rankingItems).HasLetters)
    (noTab : '\t' ∉ edited.toList)
    (restates :
      List.Forall₂ (NumberedLine.Restates renumber)
        (statementLines text.toList) (statementLines edited.toList)) :
    ofText edited = .ok (document.renumbered renumber) := by
  obtain ⟨-, first, others, listed, stated, numbered, entries⟩ := ofText_eq_ok_iff.mp read
  rw [listed, List.forall₂_cons_left_iff] at restates
  obtain ⟨editedFirst, editedOthers, firstRestates, othersRestate, editedListed⟩ := restates
  refine ofText_eq_ok_iff.mpr
    ⟨firstTab?_eq_none_iff.mpr noTab, editedFirst, editedOthers, editedListed, ?_, ?_,
      entries_of_restates renumber othersRestate entries⟩
  · rw [NumberedLine.statement_eq_ok_iff, Statement.ofLine_eq_ok_iff] at stated ⊢
    exact firstRestates.states _ hasLetters stated
  · rw [firstRestates.number, ← numbered]
    rfl

end Document

end LendingRules
