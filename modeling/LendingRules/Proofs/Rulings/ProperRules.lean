import LendingRules.Proofs.Reading.Flattening
import LendingRules.Proofs.Writing.Agreement

namespace LendingRules

/-!
# Rules that a rulebook can hold

Rule text takes over criteria from line to line, and a draft is handed its
criteria as they are. Either way a rule that gets into a rulebook stands below
the line of the ranking, constrains no facet twice and assigns some policy. For
text this is because each open frame already holds the criteria of everything
around it, so a facet that is free there is free in the whole nesting.
-/

/-- What every rule of a rulebook that can be made keeps to. -/
structure Rule.Proper (rule : Rule) : Prop where
  begins : 2 ≤ rule.line
  distinct : (rule.criteria.map Criterion.facet).Nodup
  assigns : ∃ type, rule.policies.assigns type = true

namespace PolicyList

/-- A list that is accepted assigns at least one type. -/
theorem exists_assigns_of_policies
    {list : PolicyList}
    {line : Nat}
    {policies : Policies}
    (accepted : list.policies line = .ok policies) :
    ∃ type, policies.assigns type = true := by
  obtain ⟨filled, distinct, rfl⟩ := policies_eq_ok_iff.mp accepted
  obtain ⟨token, member⟩ := List.exists_mem_of_ne_nil _ filled
  have assigned : list.meaning.get? token.type = some token.id :=
    (assigns_meaning distinct token.type token.id).mpr ⟨token, member, rfl, rfl⟩
  exact ⟨token.type, by simp [Policies.assigns, assigned]⟩

end PolicyList

/-- What an accepted clause means has good criteria and fine policies. -/
def Clause.Means (Good : Criterion → Prop) (Fine : Policies → Prop) : Clause → Prop
  | fallback list => (list.tokens.map PolicyToken.type).Nodup → Fine list.meaning
  | criteria tokens list? =>
      (∀ token ∈ tokens, token.Uniform → Good token.meaning) ∧
        ∀ list ∈ list?, (list.tokens.map PolicyToken.type).Nodup → Fine list.meaning

namespace Nesting

variable {nesting next last : Nesting} {entry : Entry} {rule? : Option Rule}

/-- What holds of nothing and of the criteria of all frames holds of what a line inherits. -/
theorem inherited_of_frames
    (Holds : List Criterion → Prop)
    (nothing : Holds [])
    (each : ∀ frame ∈ nesting.frames, Holds frame.criteria)
    (indent : Nat) :
    Holds (Frame.inherited (nesting.openAt indent)) := by
  unfold Frame.inherited
  cases innermost : (nesting.openAt indent).head? with
  | none => exact nothing
  | some frame =>
      have member : frame ∈ nesting.openAt indent := List.mem_of_mem_head? innermost
      exact each frame ((List.dropWhile_sublist _).subset member)

/-- What holds of the criteria of all frames still does when one of them encloses a line. -/
theorem markNested_of_frames
    (Holds : List Criterion → Prop)
    (each : ∀ frame ∈ nesting.frames, Holds frame.criteria)
    (indent : Nat) :
    ∀ frame ∈ Frame.markNested (nesting.openAt indent), Holds frame.criteria := by
  have kept : ∀ frame ∈ nesting.openAt indent, Holds frame.criteria :=
    fun frame member => each frame ((List.dropWhile_sublist _).subset member)
  cases shape : nesting.openAt indent with
  | nil => simp [Frame.markNested]
  | cons frame outer =>
      rw [shape] at kept
      simpa [Frame.markNested] using kept

/--
Taking in an entry keeps all criteria in the frames good when those that the
clause means are, and so are the criteria and the policies of the rule it gives.
-/
theorem forall_rule_of_add
    {Good : Criterion → Prop}
    {Fine : Policies → Prop}
    (frames : ∀ frame ∈ nesting.frames, ∀ criterion ∈ frame.criteria, Good criterion)
    (means : entry.clause.Means Good Fine)
    (added : nesting.add entry = .ok (rule?, next)) :
    (∀ frame ∈ next.frames, ∀ criterion ∈ frame.criteria, Good criterion) ∧
      ∀ rule ∈ rule?,
        (∀ criterion ∈ rule.criteria, Good criterion) ∧ Fine rule.policies := by
  rcases entry with ⟨line, indent, clause⟩
  cases clause with
  | fallback list =>
      obtain ⟨-, -, -, policies, accepted, rfl, rfl⟩ := add_fallback_eq_ok_iff.mp added
      obtain ⟨-, distinct, rfl⟩ := PolicyList.policies_eq_ok_iff.mp accepted
      refine ⟨by simp, fun rule given => ?_⟩
      cases Option.mem_def.mp given
      exact ⟨by simp [Rule.criteria], means distinct⟩
  | criteria tokens list? =>
      obtain ⟨tokensMean, listMeans⟩ := means
      obtain ⟨-, criteria, extended, accepted, rfl, rfl⟩ := add_criteria_eq_ok_iff.mp added
      obtain ⟨uniform, -, -, rfl⟩ := CriterionToken.extend_eq_ok_iff.mp extended
      have own : ∀ criterion ∈ tokens.map CriterionToken.meaning, Good criterion := by
        intro criterion member
        obtain ⟨token, tokenMember, rfl⟩ := List.mem_map.mp member
        exact tokensMean token tokenMember (uniform token tokenMember)
      have all :=
        List.forall_mem_append.mpr
          ⟨inherited_of_frames (fun criteria => ∀ criterion ∈ criteria, Good criterion)
            (by simp) frames indent, own⟩
      have nested :=
        markNested_of_frames (fun criteria => ∀ criterion ∈ criteria, Good criterion)
          frames indent
      refine ⟨List.forall_mem_cons.mpr ⟨all, nested⟩, fun rule given => ?_⟩
      obtain ⟨list, listed, rfl⟩ := Option.map_eq_some_iff.mp given
      obtain ⟨policies, listAccepted⟩ := accepted list listed
      obtain ⟨-, distinct, -⟩ := PolicyList.policies_eq_ok_iff.mp listAccepted
      exact ⟨all, listMeans list listed distinct⟩

/-- All criteria and policies of rules are as those that the clauses they are made of mean. -/
theorem forall_rules_of_addAll
    {entries : List Entry}
    {rules : List Rule}
    {Good : Criterion → Prop}
    {Fine : Policies → Prop}
    (frames : ∀ frame ∈ nesting.frames, ∀ criterion ∈ frame.criteria, Good criterion)
    (means : ∀ entry ∈ entries, entry.clause.Means Good Fine)
    (added : nesting.addAll entries = .ok (rules, last)) :
    ∀ rule ∈ rules, (∀ criterion ∈ rule.criteria, Good criterion) ∧ Fine rule.policies := by
  induction entries generalizing nesting rules with
  | nil =>
      simp only [Nesting.addAll, Except.ok.injEq, Prod.mk.injEq] at added
      simp [← added.1]
  | cons entry rest inductionHypothesis =>
      obtain ⟨rule?, next, others, entryAdded, restAdded, rfl⟩ :=
        addAll_cons_eq_ok_iff.mp added
      obtain ⟨entryMeans, restMean⟩ := List.forall_mem_cons.mp means
      obtain ⟨nextFrames, given⟩ := forall_rule_of_add frames entryMeans entryAdded
      intro rule member
      rcases List.mem_append.mp member with here | behind
      · exact given rule (Option.mem_toList.mp here)
      · exact inductionHypothesis nextFrames restMean restAdded rule behind

/-- Whether no open frame constrains a facet twice. -/
def Distinct (nesting : Nesting) : Prop :=
  ∀ frame ∈ nesting.frames, (frame.criteria.map Criterion.facet).Nodup

theorem Distinct.inherited
    (distinct : nesting.Distinct)
    (indent : Nat) :
    ((Frame.inherited (nesting.openAt indent)).map Criterion.facet).Nodup :=
  inherited_of_frames (fun criteria => (criteria.map Criterion.facet).Nodup) .nil distinct indent

theorem Distinct.markNested
    (distinct : nesting.Distinct)
    (indent : Nat) :
    ∀ frame ∈ Frame.markNested (nesting.openAt indent),
      (frame.criteria.map Criterion.facet).Nodup :=
  markNested_of_frames (fun criteria => (criteria.map Criterion.facet).Nodup) distinct indent

/-- Taking in an entry keeps the frames distinct and gives a rule that is. -/
theorem Distinct.add
    (distinct : nesting.Distinct)
    (added : nesting.add entry = .ok (rule?, next)) :
    next.Distinct ∧
      ∀ rule ∈ rule?, (rule.criteria.map Criterion.facet).Nodup ∧
        ∃ type, rule.policies.assigns type = true := by
  rcases entry with ⟨line, indent, clause⟩
  cases clause with
  | fallback list =>
      obtain ⟨-, -, -, policies, accepted, rfl, rfl⟩ := add_fallback_eq_ok_iff.mp added
      refine ⟨by simp [Distinct], ?_⟩
      intro rule given
      cases Option.mem_def.mp given
      exact ⟨.nil, PolicyList.exists_assigns_of_policies accepted⟩
  | criteria tokens list? =>
      obtain ⟨-, criteria, extended, accepted, rfl, rfl⟩ := add_criteria_eq_ok_iff.mp added
      obtain ⟨-, ownDistinct, fresh, rfl⟩ := CriterionToken.extend_eq_ok_iff.mp extended
      have criteriaDistinct :
          ((Frame.inherited (nesting.openAt indent) ++
            tokens.map CriterionToken.meaning).map Criterion.facet).Nodup := by
        rw [List.map_append, List.map_map, List.nodup_append]
        refine ⟨distinct.inherited indent, ownDistinct, ?_⟩
        intro facet inheritedMember other ownMember
        obtain ⟨criterion, criterionMember, rfl⟩ := List.mem_map.mp inheritedMember
        obtain ⟨token, tokenMember, rfl⟩ := List.mem_map.mp ownMember
        exact fresh token tokenMember criterion criterionMember
      refine ⟨List.forall_mem_cons.mpr ⟨criteriaDistinct, distinct.markNested indent⟩, ?_⟩
      intro rule given
      obtain ⟨list, listed, rfl⟩ := Option.map_eq_some_iff.mp given
      obtain ⟨policies, listAccepted⟩ := accepted list listed
      obtain ⟨-, -, rfl⟩ := PolicyList.policies_eq_ok_iff.mp listAccepted
      exact ⟨criteriaDistinct, PolicyList.exists_assigns_of_policies listAccepted⟩

/-- All rules that entries give constrain no facet twice and assign some policy. -/
theorem Distinct.addAll
    {entries : List Entry}
    {rules : List Rule}
    (distinct : nesting.Distinct)
    (added : nesting.addAll entries = .ok (rules, last)) :
    ∀ rule ∈ rules, (rule.criteria.map Criterion.facet).Nodup ∧
      ∃ type, rule.policies.assigns type = true := by
  induction entries generalizing nesting rules with
  | nil =>
      simp only [Nesting.addAll, Except.ok.injEq, Prod.mk.injEq] at added
      simp [← added.1]
  | cons entry rest inductionHypothesis =>
      obtain ⟨rule?, next, others, entryAdded, restAdded, rfl⟩ :=
        addAll_cons_eq_ok_iff.mp added
      obtain ⟨nextDistinct, given⟩ := distinct.add entryAdded
      intro rule member
      rcases List.mem_append.mp member with here | behind
      · exact given rule (Option.mem_toList.mp here)
      · exact inductionHypothesis nextDistinct restAdded rule behind

end Nesting

/-- The rules of a document that was read from text are proper. -/
theorem Document.proper_of_rules
    {text : String}
    {document : Document}
    {rules : List Rule}
    (read : Document.ofText text = .ok document)
    (made : document.rules = .ok rules) :
    ∀ rule ∈ rules, rule.Proper := by
  have filled : ∀ entry ∈ document.entries, entry.IsFilled := fun entry member =>
    Entry.isFilled_of_standsIn (Document.entry_standsIn read member)
  obtain ⟨last, added, -, -⟩ := Document.rules_eq_ok_iff.mp made
  have gathered := Nesting.gathers_of_addAll added filled
  have startDistinct : Nesting.start.Distinct := by simp [Nesting.Distinct, Nesting.start]
  intro rule member
  obtain ⟨entry, entryMember, sameLine⟩ :=
    List.mem_map.mp (gathered.lines.subset (List.mem_map_of_mem member))
  have below := Document.rankingLine_lt read entryMember
  have counted := Document.rankingLine_pos read
  obtain ⟨distinct, assigns⟩ := startDistinct.addAll added rule member
  exact ⟨by omega, distinct, assigns⟩

namespace Draft

/-- The rules of a finished draft are proper. -/
theorem proper_of_finish
    {calls : List DraftCall}
    {built : Rulebook}
    (finished : (ofCalls calls).finish = .ok built) :
    ∀ rule ∈ (ofCalls calls).inOrder, rule.Proper := by
  intro rule member
  have writable := writable_of_finish finished rule member
  have counted := Counted.ofCalls calls
  obtain ⟨⟨type, id⟩, listed⟩ := List.exists_mem_of_ne_nil _ writable.policies_ne_nil
  have assigned := Policies.mem_toList.mp listed
  exact
    { begins := counted.begins rule ((inOrder_perm _).mem_iff.mp member)
      distinct := writable.distinct
      assigns := ⟨type, by simp [Policies.assigns, assigned]⟩ }

end Draft

namespace Rulebook

/-- Whichever way a rulebook is made, all its rules are proper. -/
theorem Made.proper
    {rulebook : Rulebook}
    (made : rulebook.Made) :
    ∀ rule ∈ rulebook.rules, rule.Proper := by
  cases made with
  | ofText compiled =>
      obtain ⟨document, ranking, rules, read, -, resolved, rfl⟩ :=
        ofText_eq_ok_iff.mp compiled
      exact Document.proper_of_rules read resolved
  | ofDraft finished =>
      obtain ⟨fallback, -, -, -, same⟩ := Draft.finish_eq_ok_iff.mp finished
      rw [same]
      exact Draft.proper_of_finish finished

/-- A rulebook that can be made is put together from its ranking and its rules. -/
theorem Made.eq_ofRules
    {rulebook : Rulebook}
    (made : rulebook.Made) :
    rulebook = .ofRules rulebook.ranking rulebook.rules rulebook.digest := by
  cases made with
  | ofText compiled =>
      obtain ⟨document, ranking, rules, -, -, -, rfl⟩ := ofText_eq_ok_iff.mp compiled
      rfl
  | ofDraft finished =>
      obtain ⟨fallback, -, -, -, rfl⟩ := Draft.finish_eq_ok_iff.mp finished
      rfl

end Rulebook

end LendingRules
