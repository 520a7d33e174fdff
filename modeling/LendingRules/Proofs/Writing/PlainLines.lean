import LendingRules.Proofs.Reading.Entries
import LendingRules.Text.Blank

namespace LendingRules

/-!
# Written lines found again

Lines that hold no line break and no tab, each ended by a line feed, are cut into
the same lines. When they also begin with the first character of a
statement, all of them are statements without indentation, numbered without gaps.
-/

theorem dropReturn_of_bare
    {line : List Char}
    (bare : line.getLast? ≠ some '\r') :
    dropReturn line = line :=
  if_neg bare

/-- Characters with neither a line break nor a tab among them. -/
def Unbroken (characters : List Char) : Prop :=
  ∀ character ∈ characters, character ≠ '\n' ∧ character ≠ '\r' ∧ character ≠ '\t'

namespace Unbroken

variable {first second line : List Char} {character : Char}

theorem of_isBlank
    (unblank : isBlank character = false) :
    character ≠ '\n' ∧ character ≠ '\r' ∧ character ≠ '\t' := by
  refine ⟨?_, ?_, ?_⟩
  all_goals
    rintro rfl
    cases unblank

theorem of_unblank
    (unblank : ∀ character ∈ line, isBlank character = false) :
    Unbroken line :=
  fun character member => of_isBlank (unblank character member)

/-- A word is unbroken when it passes a test character by character. -/
theorem of_all
    (unblank : (line.all fun character => !isBlank character) = true) :
    Unbroken line := by
  apply of_unblank
  simpa using unblank

theorem append
    (firstUnbroken : Unbroken first)
    (secondUnbroken : Unbroken second) :
    Unbroken (first ++ second) := by
  intro character member
  rcases List.mem_append.mp member with inFirst | inSecond
  · exact firstUnbroken character inFirst
  · exact secondUnbroken character inSecond

theorem space (restUnbroken : Unbroken line) : Unbroken (' ' :: line) :=
  List.forall_mem_cons.mpr ⟨by decide, restUnbroken⟩

theorem cons
    (unblank : isBlank character = false)
    (restUnbroken : Unbroken line) :
    Unbroken (character :: line) :=
  List.forall_mem_cons.mpr ⟨of_isBlank unblank, restUnbroken⟩

theorem flatMap
    {Element : Type}
    {elements : List Element}
    {written : Element → List Char}
    (each : ∀ element ∈ elements, Unbroken (written element)) :
    Unbroken (elements.flatMap written) := by
  intro character member
  obtain ⟨element, elementMember, here⟩ := List.mem_flatMap.mp member
  exact each element elementMember character here

theorem newline_not_mem (unbroken : Unbroken line) : '\n' ∉ line :=
  fun member => (unbroken '\n' member).1 rfl

theorem tab_not_mem (unbroken : Unbroken line) : '\t' ∉ line :=
  fun member => (unbroken '\t' member).2.2 rfl

theorem dropReturn_eq (unbroken : Unbroken line) : dropReturn line = line :=
  dropReturn_of_bare fun last => (unbroken '\r' (List.mem_of_getLast? last)).2.1 rfl

end Unbroken

/-- A line that is ended by a line feed comes first. -/
theorem textLines_append_newline
    {line : List Char}
    (noFeed : '\n' ∉ line)
    (after : List Char) :
    textLines (line ++ '\n' :: after) = dropReturn line :: textLines after := by
  rw [textLines, segments_append_newline noFeed]
  -- The line is terminated even when it is the last: an empty segment follows it.
  cases cut : segments after with
  | nil => exact absurd cut (segments_ne_nil after)
  | cons segment others =>
      rw [linesOfSegments, textLines, cut]
      exact List.cons_ne_nil segment others

/-- Complete lines come before those of the rest. -/
theorem textLines_flatMap_append
    {lines : List (List Char)}
    (noFeed : ∀ line ∈ lines, '\n' ∉ line)
    (rest : List Char) :
    textLines ((lines.flatMap fun line => line ++ ['\n']) ++ rest) =
      lines.map dropReturn ++ textLines rest := by
  induction lines with
  | nil => rfl
  | cons line others inductionHypothesis =>
      obtain ⟨lineFree, othersFree⟩ := List.forall_mem_cons.mp noFeed
      have shape :
          ((line :: others).flatMap fun line => line ++ ['\n']) ++ rest =
            line ++ '\n' :: ((others.flatMap fun line => line ++ ['\n']) ++ rest) := by
        simp
      rw [shape, textLines_append_newline lineFree, inductionHypothesis othersFree]
      rfl

/-- Unbroken lines, each ended by a line feed, are the lines of the text. -/
theorem textLines_flatMap
    {lines : List (List Char)}
    (unbroken : ∀ line ∈ lines, Unbroken line) :
    textLines (lines.flatMap fun line => line ++ ['\n']) = lines := by
  have noFeed : ∀ line ∈ lines, '\n' ∉ line :=
    fun line member => (unbroken line member).newline_not_mem
  have same : lines.map dropReturn = lines.map id :=
    List.map_congr_left fun line member => (unbroken line member).dropReturn_eq
  have cut := textLines_flatMap_append noFeed []
  rw [List.append_nil, same, List.map_id] at cut
  exact cut.trans (List.append_nil lines)

/-- A line that is cut off where it was written, and states something unindented. -/
structure IsPlain (line : List Char) : Prop where
  unbroken : Unbroken line
  begins : ∃ first ∈ line.head?, first ≠ ' ' ∧ first ≠ '#' ∧ first ≠ '/'

namespace IsPlain

variable {line : NumberedLine}

theorem isStatement (plain : IsPlain line.characters) : line.isStatement = true := by
  obtain ⟨first, begins, notSpace, notHash, notSlash⟩ := plain.begins
  obtain ⟨others, shape⟩ := List.head?_eq_some_iff.mp begins
  simp [NumberedLine.isStatement, shape, notSpace, notHash, notSlash]

theorem indent_eq (plain : IsPlain line.characters) : line.indent = 0 := by
  obtain ⟨first, begins, notSpace, -, -⟩ := plain.begins
  obtain ⟨others, shape⟩ := List.head?_eq_some_iff.mp begins
  simp [NumberedLine.indent, shape, notSpace]

end IsPlain

/-- Lines with ever greater numbers, the first of them given. -/
def numberedFrom : Nat → List (List Char) → List NumberedLine
  | _, [] => []
  | next, characters :: rest => ⟨next, characters⟩ :: numberedFrom (next + 1) rest

theorem map_zipIdx_eq_numberedFrom
    (index : Nat)
    (lines : List (List Char)) :
    ((lines.zipIdx index).map fun (characters, index) =>
        (⟨index + 1, characters⟩ : NumberedLine)) =
      numberedFrom (index + 1) lines := by
  induction lines generalizing index with
  | nil => rfl
  | cons line others inductionHypothesis =>
      rw [List.zipIdx_cons, List.map_cons, inductionHypothesis, numberedFrom]

/-- Plain lines, each ended by a line feed, are the statements of the text. -/
theorem statementLines_flatMap
    {lines : List (List Char)}
    (plain : ∀ line ∈ lines, IsPlain line) :
    statementLines (lines.flatMap fun line => line ++ ['\n']) = numberedFrom 1 lines := by
  have cut := textLines_flatMap fun line member => (plain line member).unbroken
  rw [statementLines, numberedLines, cut, ← map_zipIdx_eq_numberedFrom, List.filter_eq_self]
  intro line member
  obtain ⟨⟨characters, index⟩, listed, rfl⟩ := List.mem_map.mp member
  apply IsPlain.isStatement
  exact plain characters (List.fst_mem_of_mem_zipIdx listed)

/-- Plain lines, each ended by a line feed, make a text without tabs. -/
theorem firstTab?_flatMap
    {lines : List (List Char)}
    (plain : ∀ line ∈ lines, IsPlain line) :
    firstTab? (lines.flatMap fun line => line ++ ['\n']) = none := by
  rw [firstTab?_eq_none_iff]
  intro tab
  obtain ⟨line, member, here⟩ := List.mem_flatMap.mp tab
  rcases List.mem_append.mp here with inLine | feed
  · exact (plain line member).unbroken.tab_not_mem inLine
  · cases List.mem_singleton.mp feed

end LendingRules
