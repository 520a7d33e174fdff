import LendingRules.Proofs.Layout.Edits
import Mathlib.Order.Monotone.Basic

namespace LendingRules

/-!
# Lines that state the same under other numbers

A line that says nothing is not among the statements of a text, and padding makes
no statement of it. Every statement of a text is found again after an edit, in its
place, as far indented and stating what it did, and only its number can have
grown: those behind a line that was put in are greater by one.
-/

/-- A line that states what another one does, under another number. -/
structure NumberedLine.Restates
    (renumber : Nat → Nat)
    (line edited : NumberedLine) : Prop where
  number : edited.number = renumber line.number
  indent : edited.indent = line.indent
  states : ∀ statement : Statement, statement.HasLetters →
    Statement.DerivesLine line.characters statement →
      Statement.DerivesLine edited.characters statement

namespace NumberedLine

variable {renumber : Nat → Nat} {number moved : Nat} {characters padding : List Char}

theorem restates_of_number
    (numbered : moved = renumber number) :
    Restates renumber ⟨number, characters⟩ ⟨moved, characters⟩ :=
  ⟨numbered, rfl, fun _ _ derives => derives⟩

/-- Whether a line states something is told in front of its padding. -/
theorem isStatement_padded (isPadding : IsPadding padding) :
    isStatement ⟨number, characters ++ padding⟩ = isStatement ⟨number, characters⟩ := by
  simp only [isStatement, List.dropWhile_append]
  cases shape : characters.dropWhile (· = ' ') with
  | nil =>
      obtain ⟨count, remark, rfl, rfl | ⟨comment, rfl⟩⟩ := isPadding
      · simp
      · simp
  | cons first others => rfl

/-- A line with padding states what it does without. -/
theorem restates_padded
    (isPadding : IsPadding padding)
    (states : isStatement ⟨number, characters⟩ = true) :
    Restates id ⟨number, characters⟩ ⟨number, characters ++ padding⟩ := by
  refine ⟨rfl, ?_, fun statement hasLetters derives => derives.padded hasLetters isPadding⟩
  have unspaced : (characters.takeWhile (· = ' ')).length ≠ characters.length := by
    intro spaces
    have whole := (List.takeWhile_prefix _).eq_of_length spaces
    have none : characters.dropWhile (· = ' ') = [] :=
      List.dropWhile_eq_nil_iff.mpr (List.takeWhile_eq_self_iff.mp whole)
    simp [isStatement, none] at states
  rw [indent, indent, List.takeWhile_append, if_neg unspaced]

end NumberedLine

theorem numberedLines_eq (text : List Char) :
    numberedLines text = numberedFrom 1 (textLines text) :=
  map_zipIdx_eq_numberedFrom 0 (textLines text)

theorem numberedFrom_append (next : Nat) (before after : List (List Char)) :
    numberedFrom next (before ++ after) =
      numberedFrom next before ++ numberedFrom (next + before.length) after := by
  induction before generalizing next with
  | nil => rfl
  | cons line others inductionHypothesis =>
      rw [List.cons_append, numberedFrom, inductionHypothesis, numberedFrom, List.cons_append,
        List.length_cons, Nat.add_assoc, Nat.add_comm 1]

/-- The statements among lines, the first of which has the given number. -/
def statementsFrom (next : Nat) (lines : List (List Char)) : List NumberedLine :=
  (numberedFrom next lines).filter NumberedLine.isStatement

theorem statementLines_eq (text : List Char) :
    statementLines text = statementsFrom 1 (textLines text) := by
  rw [statementLines, numberedLines_eq, statementsFrom]

theorem statementsFrom_append (next : Nat) (before after : List (List Char)) :
    statementsFrom next (before ++ after) =
      statementsFrom next before ++ statementsFrom (next + before.length) after := by
  rw [statementsFrom, numberedFrom_append, List.filter_append, statementsFrom, statementsFrom]

/-- The same lines under other numbers state the same. -/
theorem restates_statementsFrom
    {renumber : Nat → Nat}
    {next moved : Nat}
    {lines : List (List Char)}
    (numbered : ∀ index < lines.length, moved + index = renumber (next + index)) :
    List.Forall₂ (NumberedLine.Restates renumber)
      (statementsFrom next lines) (statementsFrom moved lines) := by
  induction lines generalizing next moved with
  | nil => exact .nil
  | cons line others inductionHypothesis =>
      have first : moved = renumber next := numbered 0 (Nat.succ_pos _)
      have rest :
          List.Forall₂ (NumberedLine.Restates renumber)
            (statementsFrom (next + 1) others) (statementsFrom (moved + 1) others) := by
        refine inductionHypothesis fun index inside => ?_
        have here := numbered (index + 1) (Nat.succ_lt_succ inside)
        rwa [Nat.add_right_comm, Nat.add_right_comm next]
      have sameKind :
          NumberedLine.isStatement ⟨moved, line⟩ = NumberedLine.isStatement ⟨next, line⟩ := rfl
      rw [statementsFrom, statementsFrom, numberedFrom, numberedFrom, List.filter_cons,
        List.filter_cons, sameKind]
      split
      · exact .cons (NumberedLine.restates_of_number first) rest
      · exact rest

/-- The numbers of lines after one was put in behind so many. -/
def skipLine (before : Nat) (number : Nat) : Nat :=
  if number ≤ before then number else number + 1

theorem strictMono_skipLine (before : Nat) : StrictMono (skipLine before) := by
  intro first second earlier
  unfold skipLine
  split <;> split <;> omega

/-- After an edit every statement is found again in its place. -/
theorem LineEdit.exists_restates
    {lines edited : List (List Char)}
    (edit : LineEdit lines edited) :
    ∃ renumber : Nat → Nat, StrictMono renumber ∧
      List.Forall₂ (NumberedLine.Restates renumber)
        (statementsFrom 1 lines) (statementsFrom 1 edited) := by
  cases edit with
  | none => exact ⟨id, strictMono_id, restates_statementsFrom fun _ _ => rfl⟩
  | @insert before line silent after =>
      refine ⟨skipLine before.length, strictMono_skipLine _, ?_⟩
      have silentHere : NumberedLine.isStatement ⟨1 + before.length, line⟩ = false :=
        NumberedLine.isStatement_eq_false_iff.mpr silent
      have left :
          statementsFrom (1 + before.length) (line :: after) =
            statementsFrom (1 + before.length + 1) after := by
        rw [statementsFrom, numberedFrom, List.filter_cons, silentHere]
        rfl
      rw [statementsFrom_append, statementsFrom_append, left]
      apply List.rel_append
      · refine restates_statementsFrom fun index inside => ?_
        unfold skipLine
        split <;> omega
      · refine restates_statementsFrom fun index inside => ?_
        unfold skipLine
        split <;> omega
  | @pad before line padding isPadding after =>
      refine ⟨id, strictMono_id, ?_⟩
      rw [statementsFrom_append, statementsFrom_append]
      apply List.rel_append
      · exact restates_statementsFrom fun _ _ => rfl
      · rw [statementsFrom, statementsFrom, numberedFrom, numberedFrom, List.filter_cons,
          List.filter_cons, NumberedLine.isStatement_padded isPadding]
        split
        · rename_i states
          exact .cons (NumberedLine.restates_padded isPadding states)
            (restates_statementsFrom fun _ _ => rfl)
        · exact restates_statementsFrom fun _ _ => rfl

end LendingRules
