import LendingRules.Proofs.Grammar.Phrases

namespace LendingRules

/-!
# Readers of tokens read phrases

A reader that succeeds has moved over a phrase, and a phrase is read as what it
stands for. Where a phrase may be continued, this takes that nothing follows by
which it would be: what follows is told by the next sign, the first character
behind any spaces.
-/

namespace Cursor

variable {cursor after : Cursor} {word : List Char} {sign : Char}

theorem Passes.shape
    (passes : cursor.Passes word after) :
    ∃ column rest, cursor = ⟨column, word ++ rest⟩ ∧ after = ⟨column + word.length, rest⟩ := by
  refine ⟨cursor.column, after.rest, ?_, ?_⟩
  · rw [← passes.rest]
  · rw [← passes.column]

theorem passes_span (cursor : Cursor) (test : Char → Bool) :
    cursor.Passes (cursor.span test).1 (cursor.span test).2 :=
  ⟨List.takeWhile_append_dropWhile.symm, rfl⟩

/-- Behind the characters that pass a test stands one that fails it, or none. -/
theorem test_of_head?_span
    {test : Char → Bool}
    {next : Char}
    (head : (cursor.span test).2.rest.head? = some next) :
    test next = false := by
  have failing := List.head?_dropWhile_not test cursor.rest
  simp only [span] at head
  rw [head] at failing
  simpa using failing

/-- To move over a word is to pass it. -/
theorem skipWord?_eq_some_iff :
    cursor.skipWord? word = some after ↔ cursor.Passes word after := by
  constructor
  · intro skipped
    unfold skipWord? at skipped
    split at skipped
    · rename_i starts
      cases skipped
      obtain ⟨tail, shape⟩ := List.isPrefixOf_iff_prefix.mp starts
      exact ⟨by simp [← shape], rfl⟩
    · cases skipped
  · intro passes
    obtain ⟨column, rest, rfl, rfl⟩ := passes.shape
    exact skipWord?_append

theorem skipWord?_eq_none
    (refuted : ∀ after, ¬ cursor.Passes word after) :
    cursor.skipWord? word = none := by
  cases skipped : cursor.skipWord? word with
  | none => rfl
  | some after => exact absurd (skipWord?_eq_some_iff.mp skipped) (refuted after)

theorem skip?_eq_some_iff :
    cursor.skip? sign = some after ↔ cursor.Passes [sign] after := by
  constructor
  · intro skipped
    unfold skip? at skipped
    split at skipped
    · cases skipped
    · rename_i next rest shape
      split at skipped
      · rename_i same
        cases skipped
        exact ⟨by simp [shape, same], rfl⟩
      · cases skipped
  · intro passes
    obtain ⟨column, rest, rfl, rfl⟩ := passes.shape
    exact skip?_cons

theorem Passes.head?_eq
    (passes : cursor.Passes (sign :: word) after) :
    cursor.rest.head? = some sign := by
  rw [passes.rest]
  rfl

theorem spaces_refl (cursor : Cursor) : cursor.Spaces cursor :=
  ⟨0, rfl, rfl⟩

/-- What is moved over as spaces is spaces. -/
theorem spaces_skipSpaces (cursor : Cursor) : cursor.Spaces cursor.skipSpaces := by
  have all : cursor.rest.takeWhile (· = ' ') =
      List.replicate (cursor.rest.takeWhile (· = ' ')).length ' ' := by
    refine List.eq_replicate_of_mem fun character member => ?_
    simpa using List.all_eq_true.mp List.all_takeWhile character member
  have passes : cursor.Passes (cursor.rest.takeWhile (· = ' ')) cursor.skipSpaces :=
    cursor.passes_span _
  rw [all] at passes
  exact ⟨_, passes⟩

theorem skipSpaces_eq_self
    (present : cursor.rest.head? ≠ some ' ') :
    cursor.skipSpaces = cursor :=
  skipSpaces_of_head? present

/-- Behind some of the spaces the rest of them follow. -/
theorem Spaces.skipSpaces_eq
    (spaces : cursor.Spaces after) :
    cursor.skipSpaces = after.skipSpaces := by
  obtain ⟨count, passes⟩ := spaces
  obtain ⟨column, rest, rfl, rfl⟩ := passes.shape
  clear passes
  rw [List.length_replicate]
  induction count generalizing column with
  | zero => rfl
  | succ count inductionHypothesis =>
      rw [List.replicate_succ, List.cons_append, skipSpaces_space, inductionHypothesis]
      congr 2
      omega

/-- All spaces are passed when what follows is not a space. -/
theorem Spaces.skipSpaces_eq_of_head?
    (spaces : cursor.Spaces after)
    (present : after.rest.head? ≠ some ' ') :
    cursor.skipSpaces = after := by
  rw [spaces.skipSpaces_eq, skipSpaces_eq_self present]

/-- At least one space is one space and then any number of them. -/
theorem someSpaces_iff :
    cursor.SomeSpaces after ↔
      ∃ spaced, cursor.skip? ' ' = some spaced ∧ spaced.Spaces after := by
  constructor
  · rintro ⟨count, restEq, columnEq⟩
    refine ⟨⟨cursor.column + 1, List.replicate count ' ' ++ after.rest⟩, ?_, count, rfl, ?_⟩
    · rw [skip?_eq_some_iff]
      exact ⟨restEq, rfl⟩
    · simp only [columnEq, List.length_replicate]
      omega
  · rintro ⟨spaced, skipped, count, restEq, columnEq⟩
    obtain ⟨firstEq, firstColumn⟩ := skip?_eq_some_iff.mp skipped
    refine ⟨count, ?_, ?_⟩
    · rw [firstEq, restEq]
      rfl
    · simp only [columnEq, firstColumn, List.length_replicate, List.length_singleton]
      omega

/-- Where there is a space, at least one is moved over. -/
theorem someSpaces_skipSpaces
    (space : cursor.rest.head? = some ' ') :
    cursor.SomeSpaces cursor.skipSpaces := by
  obtain ⟨rest, shape⟩ := List.head?_eq_some_iff.mp space
  have passes : cursor.Passes [' '] ⟨cursor.column + 1, rest⟩ := ⟨shape, rfl⟩
  have one : cursor.Spaces ⟨cursor.column + 1, rest⟩ := ⟨1, passes⟩
  rw [someSpaces_iff]
  refine ⟨_, skip?_eq_some_iff.mpr passes, ?_⟩
  rw [one.skipSpaces_eq]
  exact spaces_skipSpaces _

theorem SomeSpaces.spaces (spaces : cursor.SomeSpaces after) : cursor.Spaces after := by
  obtain ⟨count, passes⟩ := spaces
  exact ⟨count + 1, passes⟩

/-- The first character behind the spaces. -/
def nextSign (cursor : Cursor) : Option Char :=
  cursor.skipSpaces.rest.head?

theorem nextSign_eq_head?
    (present : cursor.rest.head? ≠ some ' ') :
    cursor.nextSign = cursor.rest.head? := by
  rw [nextSign, skipSpaces_eq_self present]

theorem Spaces.nextSign_eq
    (spaces : cursor.Spaces after) :
    cursor.nextSign = after.nextSign := by
  rw [nextSign, spaces.skipSpaces_eq, nextSign]

/-- A line is at its end where no sign follows but that of a comment. -/
theorem atEnd_iff : cursor.atEnd = true ↔ ∀ next ∈ cursor.rest.head?, next = '#' := by
  unfold atEnd
  cases cursor.rest <;> simp

end Cursor

section Combinations

variable {Value : Type} {Phrase : Cursor → Value → Cursor → Prop}
variable {cursor after : Cursor} {value : Value} {sign : Char}

theorem Behind.nextSign_eq
    (notSpace : sign ≠ ' ')
    (behind : Behind sign Phrase cursor value after) :
    cursor.nextSign = some sign := by
  cases behind with
  | behind before passes spaces phrase =>
      have head := passes.head?_eq
      rw [before.nextSign_eq, Cursor.nextSign_eq_head? (by simpa [head] using notSpace), head]

/-- A sign is skipped with the spaces around it up to where the phrase begins. -/
theorem behind_iff
    (notSpace : sign ≠ ' ')
    (begins : ∀ {cursor value after},
      Phrase cursor value after → cursor.rest.head? ≠ some ' ') :
    Behind sign Phrase cursor value after ↔
      ∃ passed, cursor.skipSpaces.skip? sign = some passed ∧
        Phrase passed.skipSpaces value after := by
  constructor
  · rintro ⟨before, passes, spaces, phrase⟩
    rename_i mark passed here
    have present : mark.rest.head? ≠ some ' ' := by
      rw [passes.head?_eq]
      simpa using notSpace
    rw [before.skipSpaces_eq_of_head? present]
    refine ⟨_, Cursor.skip?_eq_some_iff.mpr passes, ?_⟩
    rwa [spaces.skipSpaces_eq_of_head? (begins phrase)]
  · rintro ⟨passed, skipped, phrase⟩
    exact .behind (Cursor.spaces_skipSpaces _) (Cursor.skip?_eq_some_iff.mp skipped)
      (Cursor.spaces_skipSpaces _) phrase

/-- Spaces in front are skipped up to where the phrase begins. -/
theorem spaced_iff
    (begins : ∀ {cursor value after},
      Phrase cursor value after → cursor.rest.head? ≠ some ' ') :
    Spaced Phrase cursor value after ↔
      ∃ spaced, cursor.skip? ' ' = some spaced ∧ Phrase spaced.skipSpaces value after := by
  constructor
  · rintro ⟨spaces, phrase⟩
    obtain ⟨spaced, skipped, further⟩ := Cursor.someSpaces_iff.mp spaces
    refine ⟨spaced, skipped, ?_⟩
    rwa [further.skipSpaces_eq_of_head? (begins phrase)]
  · rintro ⟨spaced, skipped, phrase⟩
    exact .spaced (Cursor.someSpaces_iff.mpr ⟨spaced, skipped, Cursor.spaces_skipSpaces _⟩)
      phrase

end Combinations

namespace LetterToken

variable {cursor after : Cursor} {token : LetterToken}

theorem Derives.head?_eq
    (derives : Derives cursor token after) :
    cursor.rest.head? = some token.facet.letter := by
  cases derives with
  | letter passes => exact passes.head?_eq

theorem Derives.head?_ne_space
    (derives : Derives cursor token after) :
    cursor.rest.head? ≠ some ' ' := by
  rw [derives.head?_eq]
  simpa using token.facet.letter_ne_space

/-- Exactly the letters that stand alone are read. -/
theorem read_eq_ok_iff :
    LetterToken.read cursor = .ok (token, after) ↔ Derives cursor token after := by
  constructor
  · intro read
    unfold LetterToken.read at read
    split at read
    · cases read
    · rename_i letter rest shape
      split at read
      · cases read
      · rename_i facet found
        split at read
        · cases read
        · rename_i alone
          cases read
          have same := Facet.ofLetter?_eq_some_iff.mp found
          refine .letter ⟨by simp [shape, same], rfl⟩ ?_
          simpa [Option.any_eq_true] using alone
  · intro derives
    cases derives with
    | letter passes alone =>
        obtain ⟨column, rest, rfl, rfl⟩ := passes.shape
        refine read_letter ?_
        simpa [Option.any_eq_false] using alone

end LetterToken

namespace Cursor

variable {cursor after : Cursor} {name : List Char}

theorem PassesName.exists_begins
    (passesName : cursor.PassesName name after) :
    ∃ first ∈ cursor.rest.head?, beginsName first = true := by
  obtain ⟨isName, passes, -⟩ := passesName
  cases name with
  | nil => exact isName.elim
  | cons first others => exact ⟨first, passes.head?_eq, isName.1⟩

theorem PassesName.head?_ne_space
    (passesName : cursor.PassesName name after) :
    cursor.rest.head? ≠ some ' ' := by
  obtain ⟨first, head, begins⟩ := passesName.exists_begins
  rw [Option.mem_def.mp head]
  rintro ⟨⟩
  simp [beginsName] at begins

/-- Exactly the names are read. -/
theorem readName?_eq_some_iff :
    readName? cursor = some (name, after) ↔ cursor.PassesName name after := by
  constructor
  · intro read
    unfold readName? at read
    split at read
    · cases read
    · rename_i first rest shape
      split at read
      · rename_i begins
        cases read
        have passes := Cursor.passes_span ⟨cursor.column + 1, rest⟩ continuesName
        refine ⟨⟨begins, ?_⟩, ⟨?_, ?_⟩, ?_⟩
        · intro character member
          exact List.all_eq_true.mp List.all_takeWhile character member
        · rw [shape]
          exact congrArg _ passes.rest
        · simp only [List.length_cons]
          omega
        · intro next head
          exact test_of_head?_span head
      · cases read
  · rintro ⟨isName, passes, ends⟩
    obtain ⟨column, rest, rfl, rfl⟩ := passes.shape
    exact readName?_append isName ends

end Cursor

namespace NameToken

variable {cursor after : Cursor} {token : NameToken} {tokens : List NameToken}

theorem Derives.head?_ne_space
    (derives : Derives cursor token after) :
    cursor.rest.head? ≠ some ' ' := by
  cases derives with
  | name passes => exact passes.head?_ne_space

/-- Exactly the names behind spaces are read. -/
theorem read_eq_ok_iff :
    NameToken.read cursor = .ok (token, after) ↔ Spaced Derives cursor token after := by
  rw [spaced_iff Derives.head?_ne_space]
  constructor
  · intro read
    unfold NameToken.read at read
    split at read
    · cases read
    · rename_i spaced skipped
      dsimp only at read
      split at read
      · cases read
      · rename_i name final named
        cases read
        exact ⟨spaced, skipped, .name (Cursor.readName?_eq_some_iff.mp named)⟩
  · rintro ⟨spaced, skipped, derives⟩
    cases derives with
    | name passes =>
        simp only [NameToken.read, skipped, Cursor.readName?_eq_some_iff.mpr passes]

/-- The further names that are read stand in a row. -/
theorem repeats_readMore (cursor : Cursor) :
    Repeats (Spaced Derives) cursor (readMore cursor).1 (readMore cursor).2 := by
  fun_induction readMore cursor with
  | case1 => exact .nil
  | case2 cursor token after read shorter more inductionHypothesis =>
      exact .cons (read_eq_ok_iff.mp read) inductionHypothesis

/-- Names in a row are read up to a sign that begins no further name. -/
theorem readMore_of_repeats
    (repeats : Repeats (Spaced Derives) cursor tokens after)
    (ends : ∀ next ∈ after.nextSign, beginsName next = false) :
    readMore cursor = (tokens, after) := by
  induction repeats with
  | nil =>
      rename_i cursor
      cases read : NameToken.read cursor with
      | error fault => exact readMore_of_error read
      | ok found =>
          obtain ⟨token, behind⟩ := found
          cases read_eq_ok_iff.mp read with
          | spaced spaces phrase =>
              cases phrase with
              | name passes =>
                  obtain ⟨first, head, begins⟩ := passes.exists_begins
                  rw [spaces.spaces.nextSign_eq,
                    Cursor.nextSign_eq_head? passes.head?_ne_space] at ends
                  rw [ends first head] at begins
                  cases begins
  | cons first others inductionHypothesis =>
      rw [readMore_of_ok (read_eq_ok_iff.mpr first), inductionHypothesis ends]

end NameToken

end LendingRules
