import LendingRules.Rulebook.OfText

namespace LendingRules

/-!
# Inquiries

What can be asked of the rules that apply to a request: the best ruling of one
type, all rulings of one type, or the best ruling of every type.
-/

/-- A question about the policies for a request. -/
inductive Inquiry where
  | best (type : PolicyType)
  | all (type : PolicyType)
  | everyType
  deriving Repr, DecidableEq

/-- The answer to an inquiry. -/
inductive Finding where
  | ruling (ruling : Ruling)
  | report (report : Report)
  | decision (decision : Decision)
  deriving Repr, DecidableEq

namespace Inquiry

/--
Answer an inquiry from a rulebook. It fails when a ruling is asked for that no
rule gives; a report may be without rulings.
-/
def answer
    (inquiry : Inquiry)
    (rulebook : Rulebook)
    (request : Request) :
    Except LendingError Finding :=
  match inquiry with
  | best type => .ruling <$> rulebook.requireRuling request type
  | all type => .ok (.report (rulebook.report request type))
  | everyType =>
      match rulebook.decision request with
      | .ok decision => .ok (.decision decision)
      | .error type => .error (.noRuling type)

end Inquiry

end LendingRules
