import LendingRules.Document.Nesting
import LendingRules.Proofs.Reading.Success

namespace LendingRules

/-!
# What the tokens of a line mean

Tokens that are accepted have one meaning, whatever line they stand on: a
criterion token stands for a criterion, and a policy list assigns what its
tokens say. The checks only decide whether the meaning is taken.
-/

namespace CriterionToken

/-- The criterion a token stands for, its names being all plain or all negated. -/
def meaning (token : CriterionToken) : Criterion where
  facet := token.facet
  test :=
    match token.names with
    | [⟨"all", false, _⟩] => .anyId
    | names =>
        let ids := names.map NameToken.name
        if names.any NameToken.negated then .noneOf ids else .oneOf ids

/-- Whether no plain name stands beside a negated one. -/
def Uniform (token : CriterionToken) : Prop :=
  ∀ first ∈ token.names, ∀ second ∈ token.names, first.negated = second.negated

private theorem negated_eq_head?_of_uniform
    {names : List NameToken}
    (uniform : ∀ first ∈ names, ∀ second ∈ names, first.negated = second.negated) :
    names.any NameToken.negated = names.head?.any NameToken.negated := by
  cases names with
  | nil => rfl
  | cons first rest =>
      cases negated : first.negated with
      | true => simp [negated]
      | false =>
          simp only [List.any_cons, negated, Bool.false_or, List.head?_cons,
            Option.any_some, List.any_eq_false]
          intro other member
          rw [uniform other (by simp [member]) first (by simp), negated]
          simp

theorem test_meaning_of_lone_all
    {token : CriterionToken}
    {column : Nat}
    (lone : token.names = [⟨"all", false, column⟩]) :
    token.meaning.test = .anyId := by
  simp only [meaning, lone]

theorem test_meaning_of_not_lone_all
    {token : CriterionToken}
    (notLone : ∀ column, token.names ≠ [⟨"all", false, column⟩]) :
    token.meaning.test =
      if token.names.any NameToken.negated then
        .noneOf (token.names.map NameToken.name)
      else
        .oneOf (token.names.map NameToken.name) := by
  unfold meaning
  dsimp only
  split
  · rename_i column lone
    exact absurd lone (notLone column)
  · rfl

/-- A token is accepted exactly when its names are alike, and then means this. -/
theorem criterion_eq_ok_iff
    {token : CriterionToken}
    {line : Nat}
    {stated : Criterion} :
    token.criterion line = .ok stated ↔ token.Uniform ∧ stated = token.meaning := by
  unfold criterion Uniform
  split
  · rename_i column lone
    have test := test_meaning_of_lone_all lone
    have means : token.meaning = ⟨token.facet, .anyId⟩ := by
      rw [← test]
      rfl
    constructor
    · intro accepted
      cases accepted
      exact ⟨by simp [lone], means.symm⟩
    · rintro ⟨-, rfl⟩
      rw [means]
  · rename_i notLone
    have test := test_meaning_of_not_lone_all notLone
    dsimp only
    split
    · rename_i odd found
      have differs := List.find?_some found
      have member := List.mem_of_find?_eq_some found
      constructor
      · intro accepted
        simp at accepted
      · rintro ⟨uniform, -⟩
        cases listed : token.names with
        | nil => simp [listed] at member
        | cons first rest =>
            have alike := uniform odd member first (by simp [listed])
            simp [listed, alike] at differs
    · rename_i unfound
      have alike := List.find?_eq_none.mp unfound
      simp only [bne_iff_ne, ne_eq, Decidable.not_not] at alike
      have uniform :
          ∀ first ∈ token.names, ∀ second ∈ token.names,
            first.negated = second.negated := by
        intro first firstMember second secondMember
        rw [alike first firstMember, alike second secondMember]
      rw [negated_eq_head?_of_uniform uniform] at test
      rw [← test]
      constructor
      · intro accepted
        cases accepted
        exact ⟨uniform, rfl⟩
      · rintro ⟨-, rfl⟩
        rfl

/-- The meaning of a token constrains the facet of its letter. -/
@[simp] theorem facet_meaning (token : CriterionToken) :
    token.meaning.facet = token.facet := rfl

/--
The criteria of a line are added when each token is accepted and no facet is
constrained twice, be it on the line or by what the line inherits.
-/
theorem extend_eq_ok_iff
    {line : Nat}
    {inherited : List Criterion}
    {tokens : List CriterionToken}
    {criteria : List Criterion} :
    extend line inherited tokens = .ok criteria ↔
      (∀ token ∈ tokens, token.Uniform) ∧
        (tokens.map CriterionToken.facet).Nodup ∧
          (∀ token ∈ tokens, ∀ criterion ∈ inherited, criterion.facet ≠ token.facet) ∧
            criteria = inherited ++ tokens.map meaning := by
  induction tokens generalizing inherited with
  | nil => simp [extend, eq_comm]
  | cons token rest inductionHypothesis =>
      unfold extend
      by_cases repeated : inherited.any (·.facet = token.facet)
      · obtain ⟨criterion, member, same⟩ := List.any_eq_true.mp repeated
        simp only [repeated, ↓reduceIte, reduceCtorEq, false_iff]
        rintro ⟨-, -, fresh, -⟩
        exact fresh token (by simp) criterion member (by simpa using same)
      · simp only [repeated, Bool.false_eq_true, ↓reduceIte, bind_eq_ok_iff,
          criterion_eq_ok_iff, inductionHypothesis]
        have fresh : ∀ criterion ∈ inherited, criterion.facet ≠ token.facet := by
          simpa using repeated
        constructor
        · rintro ⟨criterion, ⟨uniform, rfl⟩, restUniform, distinct, restFresh, rfl⟩
          refine ⟨?_, ?_, ?_, by simp⟩
          · simpa using ⟨uniform, restUniform⟩
          · refine List.nodup_cons.mpr ⟨?_, distinct⟩
            intro member
            obtain ⟨other, otherMember, same⟩ := List.mem_map.mp member
            exact restFresh other otherMember token.meaning (by simp) same.symm
          · refine List.forall_mem_cons.mpr ⟨fresh, ?_⟩
            intro other member criterion inheritedMember
            exact restFresh other member criterion (by simp [inheritedMember])
        · rintro ⟨uniform, distinct, allFresh, rfl⟩
          obtain ⟨tokenUniform, restUniform⟩ := List.forall_mem_cons.mp uniform
          obtain ⟨apart, restDistinct⟩ := List.nodup_cons.mp distinct
          refine ⟨_, ⟨tokenUniform, rfl⟩, restUniform, restDistinct, ?_, by simp⟩
          intro other member criterion criterionMember
          rcases List.mem_append.mp criterionMember with old | new
          · exact allFresh other (by simp [member]) criterion old
          · cases List.mem_singleton.mp new
            intro same
            exact apart (List.mem_map.mpr ⟨other, member, same.symm⟩)

end CriterionToken

namespace PolicyList

/-- What the tokens of a list assign, one after the other. -/
def meaning (list : PolicyList) : Policies :=
  .ofPairs (list.tokens.map fun token => (token.type, token.id))

/-- A list is accepted when it is not empty and assigns no type twice. -/
theorem policies_eq_ok_iff
    {list : PolicyList}
    {line : Nat}
    {assigned : Policies} :
    list.policies line = .ok assigned ↔
      list.tokens ≠ [] ∧
        (list.tokens.map PolicyToken.type).Nodup ∧ assigned = list.meaning := by
  unfold policies
  by_cases empty : list.tokens = []
  · simp [empty]
  · simp only [List.isEmpty_iff, empty, ↓reduceIte, ne_eq, not_false_eq_true, true_and]
    split
    · rename_i token repeated
      simp only [reduceCtorEq, false_iff]
      rintro ⟨distinct, -⟩
      rw [firstRepeat?_eq_none_iff.mpr distinct] at repeated
      cases repeated
    · rename_i unrepeated
      constructor
      · intro accepted
        cases accepted
        exact ⟨firstRepeat?_eq_none_iff.mp unrepeated, rfl⟩
      · rintro ⟨-, rfl⟩
        rfl

end PolicyList

namespace Policies

theorem get?_foldl_assign
    {pairs : List (PolicyType × String)}
    (distinct : (pairs.map Prod.fst).Nodup)
    (before : Policies)
    (type : PolicyType)
    (id : String) :
    (pairs.foldl (fun policies pair => policies.assign pair.1 pair.2) before).get? type =
        some id ↔
      (type, id) ∈ pairs ∨
        type ∉ pairs.map Prod.fst ∧ before.get? type = some id := by
  induction pairs generalizing before with
  | nil => simp
  | cons pair rest inductionHypothesis =>
      rw [List.map_cons, List.nodup_cons] at distinct
      rw [List.foldl_cons, inductionHypothesis distinct.2, get?_assign]
      by_cases same : type = pair.1
      · subst same
        have unlisted : ∀ other, (pair.1, other) ∉ rest := by
          intro other member
          exact distinct.1 (List.mem_map.mpr ⟨_, member, rfl⟩)
        simp [unlisted, Prod.ext_iff, eq_comm]
      · simp [same, Prod.ext_iff]

/-- Without repetition, exactly the listed assignments are made. -/
theorem get?_ofPairs
    {pairs : List (PolicyType × String)}
    (distinct : (pairs.map Prod.fst).Nodup)
    (type : PolicyType)
    (id : String) :
    (ofPairs pairs).get? type = some id ↔ (type, id) ∈ pairs := by
  simp [ofPairs, get?_foldl_assign distinct]

end Policies

end LendingRules
