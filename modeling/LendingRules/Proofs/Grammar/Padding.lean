import LendingRules.Proofs.Grammar.Texts
import LendingRules.Proofs.Writing.Criteria

namespace LendingRules

/-!
# Lines with something behind them

Spaces, and a comment behind them, do not change what a line states. Every phrase
of the line stays what it is when the characters behind it go on with a space:
neither a name nor a letter is continued by one. Only an empty list of letters is
told by where it stands, and it is moved by spaces at the end of a line.
-/

/-- What may be put behind a line: a space or more, and a comment or none. -/
def IsPadding (padding : List Char) : Prop :=
  ∃ count remark, padding = List.replicate (count + 1) ' ' ++ remark ∧
    (remark = [] ∨ ∃ comment, remark = '#' :: comment)

theorem IsPadding.exists_cons
    {padding : List Char}
    (isPadding : IsPadding padding) :
    ∃ rest, padding = ' ' :: rest := by
  obtain ⟨count, remark, rfl, -⟩ := isPadding
  exact ⟨List.replicate count ' ' ++ remark, rfl⟩

namespace Cursor

/-- The cursor when its line goes on. -/
def goesOn (cursor : Cursor) (more : List Char) : Cursor :=
  ⟨cursor.column, cursor.rest ++ more⟩

variable {cursor after : Cursor} {word name : List Char} {more : List Char}

theorem Passes.goesOn
    (passes : cursor.Passes word after)
    (more : List Char) :
    (cursor.goesOn more).Passes word (after.goesOn more) := by
  refine ⟨?_, passes.column⟩
  rw [Cursor.goesOn, passes.rest, List.append_assoc]
  rfl

theorem Spaces.goesOn
    (spaces : cursor.Spaces after)
    (more : List Char) :
    (cursor.goesOn more).Spaces (after.goesOn more) := by
  obtain ⟨count, passes⟩ := spaces
  exact ⟨count, passes.goesOn more⟩

theorem SomeSpaces.goesOn
    (spaces : cursor.SomeSpaces after)
    (more : List Char) :
    (cursor.goesOn more).SomeSpaces (after.goesOn more) := by
  obtain ⟨count, passes⟩ := spaces
  exact ⟨count, passes.goesOn more⟩

theorem Spaces.trans
    {here : Cursor}
    (first : cursor.Spaces here)
    (second : here.Spaces after) :
    cursor.Spaces after := by
  obtain ⟨count, passes⟩ := first
  obtain ⟨further, passesFurther⟩ := second
  refine ⟨count + further, ?_, ?_⟩
  · rw [passes.rest, passesFurther.rest, ← List.append_assoc, List.replicate_append_replicate]
  · rw [passesFurther.column, passes.column, List.length_replicate, List.length_replicate,
      List.length_replicate, Nat.add_assoc]

/-- The next character is as before, or the first one of what is added. -/
theorem head?_goesOn
    {next : Char}
    (head : next ∈ (cursor.goesOn more).rest.head?) :
    next ∈ cursor.rest.head? ∨ next ∈ more.head? := by
  unfold Cursor.goesOn at head
  cases shape : cursor.rest with
  | nil =>
      rw [shape] at head
      exact .inr head
  | cons first rest =>
      rw [shape] at head
      exact .inl head

theorem PassesName.goesOn
    (passesName : cursor.PassesName name after)
    (more : List Char) :
    (cursor.goesOn (' ' :: more)).PassesName name (after.goesOn (' ' :: more)) := by
  refine ⟨passesName.isName, passesName.passes.goesOn _, ?_⟩
  intro next head
  rcases head?_goesOn head with before | added
  · exact passesName.ends next before
  · cases Option.mem_def.mp added
    decide

end Cursor

section Combinations

variable {Value : Type} {Phrase : Cursor → Value → Cursor → Prop} {more : List Char}

/-- Whether phrases stay what they are when their lines go on. -/
def Stays (Phrase : Cursor → Value → Cursor → Prop) (more : List Char) : Prop :=
  ∀ cursor value after, Phrase cursor value after →
    Phrase (cursor.goesOn more) value (after.goesOn more)

namespace Stays

theorem repeats (stays : Stays Phrase more) : Stays (Repeats Phrase) more := by
  intro cursor values after derives
  induction derives with
  | nil => exact .nil
  | cons first others inductionHypothesis =>
      exact .cons (stays _ _ _ first) inductionHypothesis

theorem spaced (stays : Stays Phrase more) : Stays (Spaced Phrase) more := by
  rintro cursor value after ⟨spaces, phrase⟩
  exact .spaced (spaces.goesOn more) (stays _ _ _ phrase)

theorem behind (stays : Stays Phrase more) (sign : Char) :
    Stays (Behind sign Phrase) more := by
  rintro cursor value after ⟨before, passes, spaces, phrase⟩
  exact .behind (before.goesOn more) (passes.goesOn more) (spaces.goesOn more)
    (stays _ _ _ phrase)

end Stays

end Combinations

theorem LetterToken.stays_derives (more : List Char) :
    Stays LetterToken.Derives (' ' :: more) := by
  rintro cursor letter after ⟨passes, alone⟩
  refine .letter (passes.goesOn _) ?_
  intro next head
  rcases Cursor.head?_goesOn head with before | added
  · exact alone next before
  · cases Option.mem_def.mp added
    exact isWordCharacter_space

theorem LetterToken.stays_derivesFurther (more : List Char) :
    Stays LetterToken.DerivesFurther (' ' :: more) := by
  rintro cursor letter after (phrase | phrase)
  · exact .comma ((stays_derives more).behind ',' _ _ _ phrase)
  · exact .spaces ((stays_derives more).spaced _ _ _ phrase)

/-- A list of letters stays unless it is an empty one at the end of its line. -/
theorem LetterList.Derives.goesOn
    {cursor after : Cursor}
    {list : LetterList}
    (derives : LetterList.Derives cursor list after)
    (present : list.letters ≠ [] ∨ cursor.rest ≠ [])
    (more : List Char) :
    LetterList.Derives (cursor.goesOn (' ' :: more)) list (after.goesOn (' ' :: more)) := by
  cases derives with
  | empty noSpace =>
      refine .empty ?_
      obtain ⟨first, rest, shape⟩ :=
        List.exists_cons_of_ne_nil (present.resolve_left fun letters => letters rfl)
      rw [shape] at noSpace
      simpa [Cursor.goesOn, shape] using noSpace
  | letters first others =>
      exact .letters (LetterToken.stays_derives more _ _ _ first)
        ((LetterToken.stays_derivesFurther more).repeats _ _ _ others)

/-- What is behind an empty list of letters stands right where the list does. -/
theorem LetterList.Derives.present_of_rest
    {cursor after : Cursor}
    {list : LetterList}
    (derives : LetterList.Derives cursor list after)
    (further : after.rest ≠ []) :
    list.letters ≠ [] ∨ cursor.rest ≠ [] := by
  cases derives with
  | empty => exact .inr further
  | letters => exact .inl (List.cons_ne_nil _ _)

theorem RankingItem.stays_derives (more : List Char) :
    Stays RankingItem.Derives (' ' :: more) := by
  intro cursor item after derives
  cases derives with
  | criteriaCount word => exact .criteriaCount (word.goesOn _)
  | firstLine word => exact .firstLine (word.goesOn _)
  | lastLine word => exact .lastLine (word.goesOn _)
  | precedence word before opens spaces letters further closes =>
      rename_i behindWord opening opened here behind closing list
      have closingFollows : behind.rest ≠ [] := by
        obtain ⟨count, passes⟩ := further
        rw [passes.rest, closes.rest]
        simp
      exact .precedence (word.goesOn _) (before.goesOn _) (opens.goesOn _) (spaces.goesOn _)
        (letters.goesOn (letters.present_of_rest closingFollows) more) (further.goesOn _)
        (closes.goesOn _)

/-- Whether no item of a statement is an empty list of letters. -/
def Statement.HasLetters : Statement → Prop
  | ranking items => ∀ item ∈ items, ∀ list, item.kind = .letters list → list.letters ≠ []
  | clause _ => True

/-- The items of a ranking line stay unless they are an empty list of letters. -/
theorem RankingItem.DeriveAll.goesOn
    {cursor after : Cursor}
    {items : List RankingItem}
    (derive : RankingItem.DeriveAll cursor items after)
    (hasLetters : (Statement.ranking items).HasLetters)
    (more : List Char) :
    RankingItem.DeriveAll (cursor.goesOn (' ' :: more)) items (after.goesOn (' ' :: more)) := by
  cases derive with
  | keys first others =>
      exact .keys (RankingItem.stays_derives more _ _ _ first)
        (((RankingItem.stays_derives more).behind ',').repeats _ _ _ others)
  | letters letters =>
      rename_i list
      have present : list.letters ≠ [] := hasLetters _ List.mem_cons_self list rfl
      exact .letters (letters.goesOn (.inl present) more)

theorem NameToken.stays_derives (more : List Char) :
    Stays NameToken.Derives (' ' :: more) := by
  rintro cursor token after ⟨passes⟩
  exact .name (passes.goesOn more)

theorem CriterionToken.stays_derives (more : List Char) :
    Stays CriterionToken.Derives (' ' :: more) := by
  rintro cursor token after ⟨begins, first, others⟩
  exact .criterion (LetterToken.stays_derives more _ _ _ begins)
    ((NameToken.stays_derives more).spaced _ _ _ first)
    ((NameToken.stays_derives more).spaced.repeats _ _ _ others)

theorem PolicyToken.stays_derives (more : List Char) :
    Stays PolicyToken.Derives (' ' :: more) := by
  rintro cursor token after ⟨letter, spaces, passes⟩
  exact .policy (letter.goesOn _) (spaces.goesOn _) (passes.goesOn more)

theorem PolicyList.stays_derives (more : List Char) :
    Stays PolicyList.Derives (' ' :: more) := by
  rintro cursor list after ⟨colon, policies⟩
  refine .list (colon.goesOn _) ?_
  cases policies with
  | nil spaces => exact .nil (spaces.goesOn _)
  | cons spaces first others =>
      exact .cons (spaces.goesOn _) (PolicyToken.stays_derives more _ _ _ first)
        ((PolicyToken.stays_derives more).spaced.repeats _ _ _ others)

namespace Statement

/-- A statement stays when its line goes on with a space. -/
theorem Derives.goesOn
    {cursor after : Cursor}
    {statement : Statement}
    (derives : Derives cursor statement after)
    (hasLetters : statement.HasLetters)
    (more : List Char) :
    Derives (cursor.goesOn (' ' :: more)) statement (after.goesOn (' ' :: more)) := by
  have criteria := CriterionToken.stays_derives more
  cases derives with
  | ranking word before sign spaces lists =>
      exact .ranking (word.goesOn _) (before.goesOn _) (sign.goesOn _) (spaces.goesOn _)
        (lists.goesOn hasLetters more)
  | fallback word spaces policies =>
      exact .fallback (word.goesOn _) (spaces.goesOn _)
        (PolicyList.stays_derives more _ _ _ policies)
  | header first others =>
      exact .header (criteria _ _ _ first) ((criteria.behind '+').repeats _ _ _ others)
  | rule first others spaces policies =>
      exact .rule (criteria _ _ _ first) ((criteria.behind '+').repeats _ _ _ others)
        (spaces.goesOn _) (PolicyList.stays_derives more _ _ _ policies)

/-- A line with padding behind it states what it does without. -/
theorem DerivesLine.padded
    {line padding : List Char}
    {statement : Statement}
    (derives : DerivesLine line statement)
    (hasLetters : statement.HasLetters)
    (isPadding : IsPadding padding) :
    DerivesLine (line ++ padding) statement := by
  obtain ⟨rest, padded⟩ := isPadding.exists_cons
  obtain ⟨indent, states, spaces, ends⟩ := derives
  rename_i here behind last
  have indented : (Cursor.start (line ++ padding)).Spaces (here.goesOn padding) :=
    indent.goesOn padding
  have stated : Derives (here.goesOn padding) statement (behind.goesOn padding) :=
    padded ▸ states.goesOn hasLetters rest
  have spaced : (behind.goesOn padding).Spaces (last.goesOn padding) := spaces.goesOn padding
  rcases ends with none | ⟨comment, remark⟩
  · -- Where the line was at its end, the spaces go on up to the remark.
    obtain ⟨count, remark, rfl, remarkEnds⟩ := isPadding
    have further :
        (last.goesOn (List.replicate (count + 1) ' ' ++ remark)).Spaces
          ⟨last.column + (count + 1), remark⟩ := by
      refine ⟨count + 1, ?_, ?_⟩
      · rw [Cursor.goesOn, none]
        rfl
      · rw [List.length_replicate]
        rfl
    exact .line indented stated (spaced.trans further) remarkEnds
  · refine .line indented stated spaced (.inr ⟨comment ++ padding, ?_⟩)
    rw [Cursor.goesOn, remark]
    rfl

end Statement

end LendingRules
