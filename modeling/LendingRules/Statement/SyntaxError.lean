namespace LendingRules

/-!
# Syntax errors

What can be wrong with the form of rule text, where it is wrong, and how it is
told.
-/

/-- What is wrong with the form of rule text. -/
inductive SyntaxProblem where
  | tab
  | emptyText
  | rankingExpected
  | repeatedRanking
  | statementExpected
  | rankingColonExpected
  | letterListExpected
  | fallbackColonExpected
  | policyTypeExpected
  | policyNameExpected
  | nameExpected
  | furtherCriterionExpected
  | unexpectedText
  deriving Repr, DecidableEq

namespace SyntaxProblem

/-- The problem as told to the author of the text. -/
def message : SyntaxProblem → String
  | tab => "Tab character not allowed"
  | emptyText => "Rules text is empty"
  | rankingExpected => "priority line expected as first line"
  | repeatedRanking => "Duplicate priority line"
  | statementExpected => "Criterium letter, priority or fallback-policy expected"
  | rankingColonExpected => "':' expected after priority"
  | letterListExpected => "criterium expects a parenthesized letter list"
  | fallbackColonExpected => "Policy missing"
  | policyTypeExpected => "Policy type l, r, n, o or i expected"
  | policyNameExpected => "Policy name missing"
  | nameExpected => "Name missing"
  | furtherCriterionExpected => "Criterium letter expected after '+'"
  | unexpectedText => "Unexpected text"

end SyntaxProblem

/-- A problem at a column of a line that is being read. -/
structure Fault where
  column : Nat
  problem : SyntaxProblem
  deriving Repr, DecidableEq

/-- A problem at a place in rule text, line and column counted from one. -/
structure SyntaxError where
  line : Nat
  column : Nat
  problem : SyntaxProblem
  deriving Repr, DecidableEq

namespace SyntaxError

/-- The error as told to the author of the text. -/
def message (error : SyntaxError) : String :=
  "parse error at line " ++ toString error.line ++ ", column " ++
    toString error.column ++ ": " ++ error.problem.message

end SyntaxError

end LendingRules
