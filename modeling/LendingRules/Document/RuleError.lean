import LendingRules.Policy.Basic
import LendingRules.Facet.Basic
import LendingRules.Text.Quoted

namespace LendingRules

/-!
# Rule errors

What can be wrong with rules whose text is well formed, or that were drafted
without text, where it is wrong, and how it is told.
-/

/-- What is wrong with the rules. -/
inductive RuleProblem where
  | tooFewLetters (found : Nat)
  | tooManyLetters (found : Nat)
  | repeatedLetter (facet : Facet)
  | repeatedRankingKey
  | lineKeyNotLast
  | repeatedFacet (facet : Facet)
  | mixedNegation
  | policyMissing
  | criteriaMissing
  | policyMissingAfterColon
  | repeatedPolicy (type : PolicyType)
  | fallbackMissing
  | repeatedFallback
  | indentedFallback
  | unwritableId (id : String)
  deriving Repr, DecidableEq

namespace RuleProblem

/-- The problem as told to the author of the rules. -/
def message : RuleProblem → String
  | tooFewLetters found => "7 letters expected, found only " ++ toString found
  | tooManyLetters found => "Only 7 letters expected, found " ++ toString found
  | repeatedLetter facet => "Duplicate letter " ++ String.singleton facet.letter
  | repeatedRankingKey => "Duplicate priority type"
  | lineKeyNotLast => "Line priority must be the last priority type"
  | repeatedFacet facet =>
      "Duplicate criterium type " ++ String.singleton facet.letter
  | mixedNegation => "Cannot mix negated and plain names"
  | policyMissing => "Policy missing"
  | criteriaMissing => "Criteria missing"
  | policyMissingAfterColon => "Policy missing after ':'"
  | repeatedPolicy type =>
      "Only one policy of type " ++ String.singleton type.letter ++ " allowed"
  | fallbackMissing => "fallback-policy line missing"
  | repeatedFallback => "Duplicate fallback-policy line"
  | indentedFallback => "fallback-policy must not be indented"
  | unwritableId id => "Id " ++ quoted id ++ " cannot be written as rule text"

end RuleProblem

/-- A problem with rules at a place in their text, counted from one. -/
structure RuleError where
  line : Nat
  column : Nat
  problem : RuleProblem
  deriving Repr, DecidableEq

namespace RuleError

/-- The error as told to the author of the rules. -/
def message (error : RuleError) : String :=
  error.problem.message ++ " (line " ++ toString error.line ++ ", column " ++
    toString error.column ++ ")"

end RuleError

end LendingRules
