import LendingRules.Statement.SyntaxError
import LendingRules.Statement.Token

namespace LendingRules

/-!
# Policy lists

Behind the colon of a line stand its policies: each a policy type by its
letter, spaces, and a policy id. The list runs to the end of the line or to a
comment.
-/

namespace PolicyToken

/-- The policy type that a word stands for: words of one letter only. -/
def typeOfWord? : List Char → Option PolicyType
  | [letter] => PolicyType.ofLetter? letter
  | _ => none

/-- Read a policy type and a policy id. -/
def read (cursor : Cursor) : Except Fault (PolicyToken × Cursor) :=
  let word := cursor.span (· ≠ ' ')
  match typeOfWord? word.1 with
  | none => .error ⟨cursor.column, .policyTypeExpected⟩
  | some type =>
      let here := word.2.skipSpaces
      match readName? here with
      | none => .error ⟨here.column, .policyNameExpected⟩
      | some (name, after) =>
          .ok (⟨type, String.ofList name, cursor.column⟩, after)

/-- A policy takes at least one character. -/
theorem reaches_of_read
    {cursor after : Cursor}
    {token : PolicyToken}
    (read : PolicyToken.read cursor = .ok (token, after)) :
    cursor.Reaches after ∧ cursor.column < after.column := by
  unfold PolicyToken.read at read
  dsimp only at read
  split at read
  · simp at read
  · split at read
    · simp at read
    · rename_i name final named
      cases read
      have first := cursor.reaches_span (· ≠ ' ')
      have second := (cursor.span (· ≠ ' ')).2.reaches_skipSpaces
      have third := reaches_of_readName? named
      have moved := first.trans second
      exact ⟨moved.trans third.1, Nat.lt_of_le_of_lt moved.column_le third.2⟩

end PolicyToken

namespace PolicyList

/-- Read the policies up to the end of the line. -/
def readTokens (cursor : Cursor) : Except Fault (List PolicyToken × Cursor) :=
  let here := cursor.skipSpaces
  if here.atEnd then
    .ok ([], here)
  else
    match read : PolicyToken.read here with
    | .error fault => .error fault
    | .ok (token, after) =>
        have : after.rest.length < cursor.rest.length :=
          have moved := PolicyToken.reaches_of_read read
          have spaces := cursor.reaches_skipSpaces
          Cursor.Reaches.length_lt
            ⟨spaces.trans moved.1, Nat.lt_of_le_of_lt spaces.column_le moved.2⟩
        match readTokens after with
        | .error fault => .error fault
        | .ok more => .ok (token :: more.1, more.2)
termination_by cursor.rest.length

/-- Read a policy list from its colon on, when there is a colon. -/
def read? (cursor : Cursor) : Except Fault (Option (PolicyList × Cursor)) :=
  match cursor.skip? ':' with
  | none => .ok none
  | some after =>
      match readTokens after with
      | .error fault => .error fault
      | .ok (tokens, last) => .ok (some (⟨cursor.column, tokens⟩, last))

/-- A list of policies is followed by nothing but a comment. -/
theorem atEnd_of_readTokens
    {cursor after : Cursor}
    {tokens : List PolicyToken}
    (read : readTokens cursor = .ok (tokens, after)) :
    after.atEnd = true := by
  fun_induction readTokens cursor generalizing tokens
  case case1 ended =>
    simp only [Except.ok.injEq, Prod.mk.injEq] at read
    exact read.2 ▸ ended
  case case2 => simp at read
  case case3 => simp at read
  case case4 more moreRead inductionHypothesis =>
    simp only [Except.ok.injEq, Prod.mk.injEq] at read
    exact inductionHypothesis (by rw [moreRead, ← read.2])

end PolicyList

end LendingRules
