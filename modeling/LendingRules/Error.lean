import LendingRules.Document.RuleError
import LendingRules.Request.Form
import LendingRules.Statement.SyntaxError

namespace LendingRules

/-!
# Errors of the service

Everything that can go wrong between rule text, its storage and a request for a
ruling, with the texts that callers are shown.
-/

/-- Why a tenant's rule text could not be had. -/
inductive SourceError where
  | notFound (tenant : String)
  | unavailable (reason : String)
  deriving Repr, DecidableEq

namespace SourceError

/-- The error as told to callers. -/
def message : SourceError → String
  | notFound tenant => "no circulation rules stored for tenant " ++ tenant
  | unavailable reason => "rule storage unavailable: " ++ reason

end SourceError

/-- Why a rule file could not be read. -/
inductive FileError where
  | notFound
  | notUtf8
  deriving Repr, DecidableEq

namespace FileError

/-- The error as told to callers. -/
def message : FileError → String
  | notFound => "No such file or directory (os error 2)"
  | notUtf8 => "stream did not contain valid UTF-8"

end FileError

/-- Whatever can go wrong between rule text and a ruling. -/
inductive LendingError where
  | syntaxError (error : SyntaxError)
  | ruleError (error : RuleError)
  | requestError (problems : List FormProblem)
  | sourceError (error : SourceError)
  | noRuling (type : PolicyType)
  | fileError (error : FileError)
  deriving Repr, DecidableEq

namespace LendingError

/-- The error as told to callers. -/
def message : LendingError → String
  | syntaxError error => error.message
  | ruleError error => error.message
  | requestError problems =>
      "invalid query: " ++ "; ".intercalate (problems.map FormProblem.message)
  | sourceError error => error.message
  | noRuling type =>
      "no rule assigns a " ++ type.name ++ " policy for this query"
  | fileError error => error.message

/-- Line and column in the rule text, for errors that lie in the text. -/
def location? : LendingError → Option (Nat × Nat)
  | syntaxError error => some (error.line, error.column)
  | ruleError error => some (error.line, error.column)
  | _ => none

/-- Whether the caller's text or request is held to be at fault. -/
def isCallerError : LendingError → Bool
  | syntaxError _ | ruleError _ | requestError _ => true
  | sourceError _ | noRuling _ | fileError _ => false

end LendingError

end LendingRules
