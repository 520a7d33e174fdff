import LendingRules.Statement.Criteria
import LendingRules.Statement.Ranking

namespace LendingRules

/-!
# Statements from lines

A line states whatever its first word announces; every other line has to begin
with a criterion. Behind the statement only spaces and a comment may follow.
-/

namespace Statement

/-- The word that begins a ranking line. -/
def rankingWord : List Char :=
  "priority".toList

/-- The word that begins a fallback line. -/
def fallbackWord : List Char :=
  "fallback-policy".toList

/-- Read the rest of a fallback line behind its first word. -/
def readFallback (cursor : Cursor) : Except Fault (Clause × Cursor) := do
  let here := cursor.skipSpaces
  match ← PolicyList.read? here with
  | none => .error ⟨here.column, .fallbackColonExpected⟩
  | some (policies, after) => return (.fallback policies, after)

/-- Read a statement at its first character. -/
def read (cursor : Cursor) : Except Fault (Statement × Cursor) := do
  match cursor.skipWord? rankingWord with
  | some behindWord =>
      let (items, after) ← readRanking behindWord
      return (.ranking items, after)
  | none =>
      let (stated, after) ←
        match cursor.skipWord? fallbackWord with
        | some behindWord => readFallback behindWord
        | none => readCriteria cursor
      return (.clause stated, after)

/-- The statement of a line that is neither blank nor a comment. -/
def ofLine (line : List Char) : Except Fault Statement := do
  let (statement, after) ← read (Cursor.start line).skipSpaces
  let last := after.skipSpaces
  if last.atEnd then
    return statement
  else
    .error ⟨last.column, .unexpectedText⟩

end Statement

end LendingRules
