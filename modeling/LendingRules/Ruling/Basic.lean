import LendingRules.Ranking.Basic

namespace LendingRules

/-!
# Rulings

A ruling says which policy of one type a matching rule assigns, on which line
the rule stands, and what it constrained. A report lists every ruling of a type
with the best first; a decision holds the best ruling of each type.
-/

/-- Which facets of the item, the loan and the patron the rule constrained. -/
structure AppliedConditions where
  materialType : Bool := false
  loanType : Bool := false
  patronGroup : Bool := false
  deriving Repr, DecidableEq

/-- The policy that a matching rule assigns for one type. -/
structure Ruling where
  policyId : String
  policyType : PolicyType
  line : Nat
  highestFacet : Option Facet := none
  applied : AppliedConditions := {}
  deriving Repr, DecidableEq

namespace Ruling

/--
The ruling of a rule for a policy type, when the rule assigns that type. The
highest facet is the one of the rule that comes first in the precedence.
-/
def ofRule?
    (precedence : Precedence)
    (type : PolicyType)
    (rule : Rule) :
    Option Ruling :=
  (rule.policies.get? type).map fun policyId =>
    { policyId
      policyType := type
      line := rule.line
      highestFacet := precedence.highest? rule.facets
      applied :=
        { materialType := rule.facets.contains .materialType
          loanType := rule.facets.contains .loanType
          patronGroup := rule.facets.contains .patronGroup } }

/-- The ruling as shown to people: the policy and the line it comes from. -/
def text (ruling : Ruling) : String :=
  ruling.policyId ++ " (line " ++ toString ruling.line ++ ")"

/-- A rule gives a ruling exactly when it assigns the type. -/
theorem isSome_ofRule?
    (precedence : Precedence)
    (type : PolicyType)
    (rule : Rule) :
    (ofRule? precedence type rule).isSome = rule.policies.assigns type := by
  simp [ofRule?, Policies.assigns]

end Ruling

/-- Every ruling of one type for a request, best first. -/
structure Report where
  policyType : PolicyType
  rulings : List Ruling
  deriving Repr, DecidableEq

namespace Report

/-- The best ruling of the report. -/
def best? (report : Report) : Option Ruling :=
  report.rulings.head?

/-- The report as shown to people. -/
def text (report : Report) : String :=
  report.policyType.name ++ ": [" ++
    ", ".intercalate (report.rulings.map Ruling.text) ++ "]"

end Report

/-- The best ruling of each policy type. -/
abbrev Decision := PolicyTable Ruling

end LendingRules
