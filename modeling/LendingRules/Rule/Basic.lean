import LendingRules.Policy.Assignment
import LendingRules.Rule.Criterion

namespace LendingRules

/-!
# Rules

A rule assigns policies to the loans that satisfy all its criteria, or is the
fallback for loans that no other rule decides. It remembers the line of rule
text it stands on.
-/

/-- When a rule applies: always, as the last resort, or on all its criteria. -/
inductive Condition where
  | fallback
  | allOf (criteria : List Criterion)
  deriving Repr, DecidableEq

/-- The policies assigned under a condition, with the line they stand on. -/
structure Rule where
  condition : Condition
  policies : Policies
  line : Nat
  deriving Repr, DecidableEq

namespace Rule

/-- Whether the rule is the fallback. -/
def isFallback (rule : Rule) : Bool :=
  match rule.condition with
  | .fallback => true
  | .allOf _ => false

/-- The criteria of the rule; the fallback has none. -/
def criteria (rule : Rule) : List Criterion :=
  match rule.condition with
  | .fallback => []
  | .allOf criteria => criteria

/-- The facets that the rule constrains. -/
def facets (rule : Rule) : FacetSet :=
  .ofList (rule.criteria.map Criterion.facet)

/-- How specific the rule is: the number of its criteria. -/
def specificity (rule : Rule) : Nat :=
  rule.criteria.length

/-- The first criterion on a facet. -/
def criterion? (rule : Rule) (facet : Facet) : Option Criterion :=
  rule.criteria.find? fun criterion => criterion.facet = facet

/-- Whether a request satisfies every criterion. -/
def holds (rule : Rule) (request : Request) : Bool :=
  rule.criteria.all fun criterion => criterion.holds request

/-- The written form of the rule. -/
def text (rule : Rule) : String :=
  match rule.condition with
  | .fallback => "fallback-policy: " ++ rule.policies.text
  | .allOf criteria =>
      " + ".intercalate (criteria.map Criterion.text) ++ ": " ++ rule.policies.text

theorem mem_facets {rule : Rule} {facet : Facet} :
    facet ∈ rule.facets ↔ ∃ criterion ∈ rule.criteria, criterion.facet = facet := by
  simp [FacetSet.mem_iff, facets]

/-- The fallback constrains nothing. -/
theorem criteria_of_isFallback
    {rule : Rule}
    (fallback : rule.isFallback = true) :
    rule.criteria = [] := by
  unfold isFallback at fallback
  unfold criteria
  split <;> simp_all

/-- A request that satisfies a rule supplies every facet the rule constrains. -/
theorem facets_subset_of_holds
    {rule : Rule}
    {request : Request}
    (satisfied : rule.holds request = true) :
    rule.facets.isSubset request.facets = true := by
  rw [FacetSet.isSubset_iff]
  intro facet constrained
  obtain ⟨criterion, member, rfl⟩ := mem_facets.mp constrained
  exact criterion.facet_mem_of_holds
    (List.all_eq_true.mp satisfied criterion member)

end Rule

end LendingRules
