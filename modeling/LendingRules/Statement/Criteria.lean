import LendingRules.Statement.PolicyList

namespace LendingRules

/-!
# Criteria lines

A criterion is the letter of a facet with one or more names. Criteria are
joined by plus signs, and a policy list may follow them; a line without one only
groups the lines indented below it.
-/

namespace CriterionToken

/--
Read a criterion. The given problem is reported when there is no letter to
begin with.
-/
def read
    (withoutLetter : SyntaxProblem)
    (cursor : Cursor) :
    Except Fault (CriterionToken × Cursor) :=
  match LetterToken.read cursor with
  | .error column => .error ⟨column, withoutLetter⟩
  | .ok (letter, behindLetter) =>
      match NameToken.read behindLetter with
      | .error column => .error ⟨column, .nameExpected⟩
      | .ok (name, behindName) =>
          let more := NameToken.readMore behindName
          .ok (⟨letter.facet, letter.column, name :: more.1⟩, more.2)

/-- A criterion takes at least one character. -/
theorem reaches_of_read
    {withoutLetter : SyntaxProblem}
    {cursor after : Cursor}
    {token : CriterionToken}
    (read : CriterionToken.read withoutLetter cursor = .ok (token, after)) :
    cursor.Reaches after ∧ cursor.column < after.column := by
  unfold CriterionToken.read at read
  split at read
  · simp at read
  · rename_i letter behindLetter letterRead
    split at read
    · simp at read
    · rename_i name behindName nameRead
      cases read
      have first := LetterToken.reaches_of_read letterRead
      have second := NameToken.reaches_of_read nameRead
      have third := NameToken.reaches_readMore behindName
      have moved := second.1.trans third
      exact ⟨first.1.trans moved, Nat.lt_of_lt_of_le first.2 moved.column_le⟩

/-- Move over the plus sign in front of a further criterion. -/
def skipPlus? (cursor : Cursor) : Option Cursor :=
  (cursor.skipSpaces.skip? '+').map Cursor.skipSpaces

theorem reaches_of_skipPlus?
    {cursor after : Cursor}
    (skipped : skipPlus? cursor = some after) :
    cursor.Reaches after := by
  obtain ⟨plus, plusSkipped, rfl⟩ := Option.map_eq_some_iff.mp skipped
  exact (cursor.reaches_skipSpaces.trans
    (Cursor.reaches_of_skip? plusSkipped).1).trans plus.reaches_skipSpaces

/-- Read as many further criteria as plus signs announce. -/
def readMore (cursor : Cursor) : Except Fault (List CriterionToken × Cursor) :=
  match skipped : skipPlus? cursor with
  | none => .ok ([], cursor)
  | some here =>
      match read : CriterionToken.read .furtherCriterionExpected here with
      | .error fault => .error fault
      | .ok (token, after) =>
          have : after.rest.length < cursor.rest.length :=
            have plus := reaches_of_skipPlus? skipped
            have moved := reaches_of_read read
            Cursor.Reaches.length_lt
              ⟨plus.trans moved.1, Nat.lt_of_le_of_lt plus.column_le moved.2⟩
          match readMore after with
          | .error fault => .error fault
          | .ok more => .ok (token :: more.1, more.2)
termination_by cursor.rest.length

end CriterionToken

/-- Read criteria and the policy list that may follow them. -/
def readCriteria (cursor : Cursor) : Except Fault (Clause × Cursor) := do
  let (first, behindFirst) ← CriterionToken.read .statementExpected cursor
  let (others, behindCriteria) ← CriterionToken.readMore behindFirst
  let here := behindCriteria.skipSpaces
  match ← PolicyList.read? here with
  | none => return (.criteria (first :: others) none, here)
  | some (policies, after) => return (.criteria (first :: others) (some policies), after)

end LendingRules
