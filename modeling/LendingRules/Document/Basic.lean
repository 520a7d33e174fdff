import LendingRules.Statement.OfLine
import LendingRules.Text.Lines

namespace LendingRules

/-!
# Documents

A document is rule text as a list of statements, before indentation is given a
meaning: the ranking line first, then every other statement with its line and
its indentation. Blank lines and comment lines are left out.
-/

/-- A statement below the ranking line. -/
structure Entry where
  line : Nat
  indent : Nat
  clause : Clause
  deriving Repr, DecidableEq

/-- The ranking line of a text and the entries below it. -/
structure Document where
  rankingLine : Nat
  rankingItems : List RankingItem
  entries : List Entry
  deriving Repr, DecidableEq

namespace NumberedLine

/-- The number of spaces in front. -/
def indent (line : NumberedLine) : Nat :=
  (line.characters.takeWhile (· = ' ')).length

/-- Whether the line is neither empty, nor all spaces, nor a comment. -/
def isStatement (line : NumberedLine) : Bool :=
  match line.characters.dropWhile (· = ' ') with
  | [] => false
  | first :: _ => first ≠ '#' && first ≠ '/'

/-- A problem at a column of the line. -/
def error (line : NumberedLine) (column : Nat) (problem : SyntaxProblem) : SyntaxError where
  line := line.number
  column
  problem

/-- What the line states. -/
def statement (line : NumberedLine) : Except SyntaxError Statement :=
  (Statement.ofLine line.characters).mapError fun fault =>
    line.error fault.column fault.problem

/-- The entry of a line below the ranking line. -/
def entry (line : NumberedLine) : Except SyntaxError Entry := do
  match ← line.statement with
  | .ranking _ => .error (line.error (line.indent + 1) .repeatedRanking)
  | .clause clause =>
      return { line := line.number, indent := line.indent, clause }

end NumberedLine

namespace Document

/-- Read the statements of a text without tabs. -/
def ofLines : List NumberedLine → Except SyntaxError Document
  | [] => .error ⟨1, 1, .emptyText⟩
  | first :: others => do
      match ← first.statement with
      | .clause _ => .error (first.error (first.indent + 1) .rankingExpected)
      | .ranking items =>
          let entries ← others.mapM NumberedLine.entry
          return { rankingLine := first.number, rankingItems := items, entries }

/--
Read rule text. A tab anywhere is reported before all else; otherwise the first
line that is wrong is reported.
-/
def ofText (text : String) : Except SyntaxError Document :=
  let characters := text.toList
  match firstTab? characters with
  | some (line, column) => .error ⟨line, column, .tab⟩
  | none => ofLines ((numberedLines characters).filter NumberedLine.isStatement)

/-- The last line of the document that states something. -/
def lastLine (document : Document) : Nat :=
  (document.entries.getLast?.map Entry.line).getD document.rankingLine

end Document

end LendingRules
