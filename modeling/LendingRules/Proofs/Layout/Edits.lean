import LendingRules.Proofs.Grammar.Padding
import LendingRules.Proofs.Reading.TextLines
import LendingRules.Proofs.Writing.PlainLines

namespace LendingRules

/-!
# Edits of the layout

Lines that say nothing may be put in anywhere, a line feed may get a carriage
return in front, and a line may be padded. To the lines of a text only two things
happen by this: one that says nothing comes in between, or one is padded.
-/

/-- How a line ends: by a line feed, with a carriage return or without, or with the text. -/
inductive EndsLine (content : List Char) : List Char → Prop
  | feed
      (bare : content.getLast? ≠ some '\r')
      (after : List Char) :
      EndsLine content ('\n' :: after)
  | returnFeed (after : List Char) : EndsLine content ('\r' :: '\n' :: after)
  | text : EndsLine content []

/-- Whether a text ends where a new line begins. -/
def IsComplete (text : List Char) : Prop :=
  ∀ last ∈ text.getLast?, last = '\n'

/--
The edits of a text that concern its layout: to put in a line that says nothing,
to write a carriage return before a bare line feed, and to pad a line.
-/
inductive LayoutEdit : List Char → List Char → Prop
  | insertLine
      {before line after : List Char}
      (complete : IsComplete before)
      (silent : SaysNothing line)
      (noFeed : '\n' ∉ line)
      (noTab : '\t' ∉ line) :
      LayoutEdit (before ++ after) (before ++ (line ++ '\n' :: after))
  | addReturn
      {before after : List Char}
      (bare : before.getLast? ≠ some '\r') :
      LayoutEdit (before ++ '\n' :: after) (before ++ '\r' :: '\n' :: after)
  | pad
      {before content padding rest : List Char}
      (complete : IsComplete before)
      (noFeed : '\n' ∉ content)
      (ends : EndsLine content rest)
      (isPadding : IsPadding padding)
      (paddingNoFeed : '\n' ∉ padding)
      (paddingNoTab : '\t' ∉ padding) :
      LayoutEdit (before ++ (content ++ rest)) (before ++ (content ++ (padding ++ rest)))

/-- What an edit does to the lines of a text. -/
inductive LineEdit : List (List Char) → List (List Char) → Prop
  | none (lines : List (List Char)) : LineEdit lines lines
  | insert
      (before : List (List Char))
      {line : List Char}
      (silent : SaysNothing line)
      (after : List (List Char)) :
      LineEdit (before ++ after) (before ++ line :: after)
  | pad
      (before : List (List Char))
      (line : List Char)
      {padding : List Char}
      (isPadding : IsPadding padding)
      (after : List (List Char)) :
      LineEdit (before ++ line :: after) (before ++ (line ++ padding) :: after)

/-- Characters are complete lines and then what stands behind the last line feed. -/
theorem exists_lines (text : List Char) :
    ∃ (lines : List (List Char)) (rest : List Char),
      (∀ line ∈ lines, '\n' ∉ line) ∧ '\n' ∉ rest ∧
        text = (lines.flatMap fun line => line ++ ['\n']) ++ rest := by
  induction text with
  | nil => exact ⟨[], [], by simp, by simp, rfl⟩
  | cons first others inductionHypothesis =>
      obtain ⟨lines, rest, linesFree, restFree, rfl⟩ := inductionHypothesis
      by_cases feed : first = '\n'
      · subst feed
        exact ⟨[] :: lines, rest, by simpa using linesFree, restFree, by simp⟩
      · have notFeed : '\n' ≠ first := fun same => feed same.symm
        cases lines with
        | nil => exact ⟨[], first :: rest, by simp, by simp [notFeed, restFree], by simp⟩
        | cons line lines =>
            obtain ⟨lineFree, othersFree⟩ := List.forall_mem_cons.mp linesFree
            refine ⟨(first :: line) :: lines, rest, ?_, restFree, by simp⟩
            exact List.forall_mem_cons.mpr ⟨by simp [notFeed, lineFree], othersFree⟩

/-- A complete text is nothing but complete lines. -/
theorem IsComplete.exists_lines
    {text : List Char}
    (complete : IsComplete text) :
    ∃ lines : List (List Char),
      (∀ line ∈ lines, '\n' ∉ line) ∧ text = lines.flatMap fun line => line ++ ['\n'] := by
  obtain ⟨lines, rest, linesFree, restFree, rfl⟩ := LendingRules.exists_lines text
  cases last : rest.getLast? with
  | none =>
      rw [List.getLast?_eq_none_iff] at last
      exact ⟨lines, linesFree, by rw [last, List.append_nil]⟩
  | some character =>
      have ends : character = '\n' := complete character (by simp [List.getLast?_append, last])
      exact absurd (ends ▸ List.mem_of_getLast? last) restFree

section Lines

variable {line content padding : List Char}

theorem segments_of_noFeed (noFeed : '\n' ∉ content) : segments content = [content] := by
  obtain ⟨segment, others, cut, whole⟩ := exists_segments_append noFeed []
  cases cut
  rwa [List.append_nil] at whole

/-- What no line feed ends is a line when there is something of it. -/
theorem textLines_unterminated
    (noFeed : '\n' ∉ content)
    (present : content ≠ []) :
    textLines content = [content] := by
  rw [textLines, segments_of_noFeed noFeed, linesOfSegments]
  simp [present]

/-- A carriage return in front of the line feed is no part of the line. -/
theorem textLines_append_returnFeed
    (noFeed : '\n' ∉ content)
    (after : List Char) :
    textLines (content ++ '\r' :: '\n' :: after) = content :: textLines after := by
  have returnFree : '\n' ∉ content ++ ['\r'] := by simp [noFeed]
  have shape :
      content ++ '\r' :: '\n' :: after = (content ++ ['\r']) ++ '\n' :: after := by
    simp
  have dropped : dropReturn (content ++ ['\r']) = content := by simp [dropReturn]
  rw [shape, textLines_append_newline returnFree, dropped]

/-- A carriage return at the end of a line is no part of what it says or does not say. -/
theorem SaysNothing.dropReturn (silent : SaysNothing line) : SaysNothing (dropReturn line) := by
  unfold LendingRules.dropReturn
  split
  · rename_i last
    obtain ⟨count, rest, rfl, comment⟩ := silent
    cases rest with
    | nil =>
        rw [List.append_nil, List.getLast?_replicate] at last
        split at last <;> cases last
    | cons first others =>
        cases others with
        | nil =>
            rw [List.getLast?_concat] at last
            cases last
            rcases comment '\r' rfl with same | same <;> cases same
        | cons second others =>
            refine ⟨count, first :: (second :: others).dropLast, ?_, comment⟩
            rw [List.dropLast_append_of_ne_nil (List.cons_ne_nil _ _)]
            rfl
  · exact silent

theorem IsPadding.ne_nil (isPadding : IsPadding padding) : padding ≠ [] := by
  obtain ⟨rest, rfl⟩ := isPadding.exists_cons
  exact List.cons_ne_nil _ rest

/-- Padding alone on its line says nothing. -/
theorem IsPadding.saysNothing (isPadding : IsPadding padding) : SaysNothing padding := by
  obtain ⟨count, remark, rfl, remarkShape⟩ := isPadding
  refine ⟨count + 1, remark, rfl, ?_⟩
  rcases remarkShape with rfl | ⟨comment, rfl⟩
  · simp
  · simp

/-- Padding with a carriage return at its end is padding without it. -/
theorem IsPadding.dropLast
    (isPadding : IsPadding padding)
    (last : padding.getLast? = some '\r') :
    IsPadding padding.dropLast := by
  obtain ⟨count, remark, rfl, none | ⟨comment, rfl⟩⟩ := isPadding
  · rw [none, List.append_nil, List.getLast?_replicate] at last
    cases last
  · cases comment with
    | nil =>
        rw [List.getLast?_concat] at last
        cases last
    | cons first others =>
        refine ⟨count, '#' :: (first :: others).dropLast, ?_, .inr ⟨_, rfl⟩⟩
        rw [List.dropLast_append_of_ne_nil (List.cons_ne_nil _ _)]
        rfl

/-- Behind a padded line a carriage return can only be part of the padding. -/
theorem IsPadding.exists_dropReturn
    (isPadding : IsPadding padding)
    (content : List Char) :
    ∃ kept, IsPadding kept ∧ LendingRules.dropReturn (content ++ padding) = content ++ kept := by
  by_cases last : padding.getLast? = some '\r'
  · refine ⟨padding.dropLast, isPadding.dropLast last, ?_⟩
    rw [dropReturn, if_pos (by rw [List.getLast?_append, last]; rfl),
      List.dropLast_append_of_ne_nil isPadding.ne_nil]
  · refine ⟨padding, isPadding, dropReturn_of_bare ?_⟩
    rwa [List.getLast?_append_of_ne_nil _ isPadding.ne_nil]

end Lines

namespace LayoutEdit

variable {text edited : List Char}

/-- An edit puts in one line that says nothing, or pads one line, at the most. -/
theorem lineEdit
    (edit : LayoutEdit text edited) :
    LineEdit (textLines text) (textLines edited) := by
  cases edit with
  | @insertLine before line after complete silent noFeed noTab =>
      obtain ⟨lines, linesFree, rfl⟩ := complete.exists_lines
      rw [textLines_flatMap_append linesFree, textLines_flatMap_append linesFree,
        textLines_append_newline noFeed]
      exact .insert _ silent.dropReturn _
  | @addReturn before after bare =>
      obtain ⟨lines, content, linesFree, contentFree, rfl⟩ := exists_lines before
      have contentBare : content.getLast? ≠ some '\r' := by
        intro last
        rw [List.getLast?_append, last] at bare
        exact bare rfl
      rw [List.append_assoc, List.append_assoc, textLines_flatMap_append linesFree,
        textLines_flatMap_append linesFree, textLines_append_newline contentFree,
        textLines_append_returnFeed contentFree, dropReturn_of_bare contentBare]
      exact .none _
  | @pad before content padding rest complete noFeed ends isPadding paddingNoFeed =>
      obtain ⟨lines, linesFree, rfl⟩ := complete.exists_lines
      have paddedFree : '\n' ∉ content ++ padding := by simp [noFeed, paddingNoFeed]
      rw [textLines_flatMap_append linesFree, textLines_flatMap_append linesFree,
        ← List.append_assoc content]
      cases ends with
      | feed bare after =>
          rw [textLines_append_newline noFeed, textLines_append_newline paddedFree,
            dropReturn_of_bare bare]
          obtain ⟨kept, keptPadding, same⟩ := isPadding.exists_dropReturn content
          rw [same]
          exact .pad _ content keptPadding _
      | returnFeed after =>
          rw [textLines_append_returnFeed noFeed, textLines_append_returnFeed paddedFree]
          exact .pad _ content isPadding _
      | text =>
          rw [List.append_nil, List.append_nil]
          by_cases present : content = []
          · -- Behind the last line feed there was no line, and now there is one.
            subst present
            rw [List.nil_append, textLines_unterminated paddingNoFeed isPadding.ne_nil]
            exact .insert _ isPadding.saysNothing []
          · have paddedPresent : content ++ padding ≠ [] := by simp [present]
            rw [textLines_unterminated noFeed present,
              textLines_unterminated paddedFree paddedPresent]
            exact .pad _ content isPadding []

/-- An edit writes no tab. -/
theorem noTab
    (edit : LayoutEdit text edited)
    (noTab : '\t' ∉ text) :
    '\t' ∉ edited := by
  cases edit with
  | insertLine complete silent noFeed lineNoTab => simp_all
  | addReturn bare => simp_all
  | pad complete noFeed ends isPadding paddingNoFeed paddingNoTab => simp_all

end LayoutEdit

end LendingRules
