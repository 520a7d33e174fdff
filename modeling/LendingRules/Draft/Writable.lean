import LendingRules.Document.Repetition
import LendingRules.Document.RuleError
import LendingRules.Rule.Basic
import LendingRules.Text.Blank

namespace LendingRules

/-!
# Writable rules

A rule can be written as text when the text reads back as the same rule. So an
id holds no blank and no colon and begins with no character that starts another
token, a lone plain id is not the word for every id, and nothing is missing or
repeated.
-/

/-- Whether an id reads back, given the characters it may not begin with. -/
def isWritableId (reserved : List Char) (id : String) : Bool :=
  match id.toList with
  | [] => false
  | first :: rest =>
      !reserved.contains first &&
        (first :: rest).all fun character => !isBlank character && character ≠ ':'

namespace IdTest

/-- The first id of the test that would not read back. -/
def unwritableId? (test : IdTest) : Option String :=
  let unwritable ids := ids.find? fun id => !isWritableId ['+', '#', '!'] id
  match test with
  | anyId => none
  | oneOf [] | noneOf [] => some ""
  | oneOf ["all"] => some "all"
  | oneOf ids | noneOf ids => unwritable ids

end IdTest

namespace Policies

/-- The first policy id that would not read back. -/
def unwritableId? (policies : Policies) : Option String :=
  (policies.toList.map Prod.snd).find? fun id => !isWritableId ['+', '#'] id

end Policies

namespace Rule

/-- What keeps a rule from being written as text, the first problem found. -/
def flaw? (rule : Rule) : Option RuleProblem :=
  if !rule.isFallback && rule.criteria.isEmpty then
    some .criteriaMissing
  else
    match firstRepeat? Criterion.facet rule.criteria with
    | some criterion => some (.repeatedFacet criterion.facet)
    | none =>
        if rule.policies.isEmpty then
          some .policyMissing
        else
          ((rule.criteria.findSome? fun criterion => criterion.test.unwritableId?).or
            rule.policies.unwritableId?).map .unwritableId

/-- Check that a rule can be written; a flaw lies at the start of its line. -/
def checkWritable (rule : Rule) : Except RuleError Unit :=
  match rule.flaw? with
  | some problem => .error ⟨rule.line, 1, problem⟩
  | none => .ok ()

end Rule

end LendingRules
