import LendingRules.Draft.Writable
import LendingRules.Rulebook.Written

namespace LendingRules

/-!
# Drafts

A draft puts a rulebook together call by call instead of from text. Each call
that gives a rule takes the next line, as if the ranking stood on line one; a
later fallback replaces the earlier one but not its line number. A draft can be
written as rule text, and it is finished into a rulebook only when that text
says the same.
-/

/-- Rules drafted so far. -/
structure Draft where
  ranking : Ranking
  fallback? : Option Rule
  rules : List Rule
  nextLine : Nat
  deriving Repr, DecidableEq

/-- One call on a draft. -/
inductive DraftCall where
  | ranking (ranking : Ranking)
  | fallback (policies : Policies)
  | rule (criteria : List Criterion) (policies : Policies)
  deriving Repr, DecidableEq

namespace Draft

/-- The draft before any call. -/
def empty : Draft where
  ranking := .standard
  fallback? := none
  rules := []
  nextLine := 2

/-- Carry out one call. -/
def apply (draft : Draft) : DraftCall → Draft
  | .ranking ranking => { draft with ranking }
  | .fallback policies =>
      { draft with
        fallback? := some ⟨.fallback, policies, draft.nextLine⟩
        nextLine := draft.nextLine + 1 }
  | .rule criteria policies =>
      { draft with
        rules := draft.rules ++ [⟨.allOf criteria, policies, draft.nextLine⟩]
        nextLine := draft.nextLine + 1 }

/-- Carry out calls one after the other on an empty draft. -/
def ofCalls (calls : List DraftCall) : Draft :=
  calls.foldl apply empty

/-- The rules with the fallback in the order of their lines. -/
def inOrder (draft : Draft) : List Rule :=
  (draft.rules ++ draft.fallback?.toList).mergeSort fun first second =>
    first.line ≤ second.line

/-- The rule text of the draft. -/
def text (draft : Draft) : String :=
  writtenRules draft.ranking draft.inOrder

/--
Finish the draft. The fallback is checked first, then the other rules in the
order of the calls.
-/
def finish (draft : Draft) : Except RuleError Rulebook := do
  match draft.fallback? with
  | none => .error ⟨draft.nextLine, 1, .fallbackMissing⟩
  | some fallback =>
      fallback.checkWritable
      draft.rules.forM Rule.checkWritable
      return .ofRules draft.ranking draft.inOrder (.ofText draft.text)

/-- A call that gives a rule uses up one line. -/
theorem nextLine_apply (draft : Draft) (call : DraftCall) :
    (draft.apply call).nextLine =
      match call with
      | .ranking _ => draft.nextLine
      | .fallback _ | .rule _ _ => draft.nextLine + 1 := by
  cases call <;> rfl

end Draft

end LendingRules
