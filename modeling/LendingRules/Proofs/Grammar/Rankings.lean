import LendingRules.Proofs.Grammar.Clauses

namespace LendingRules

/-!
# Readers of rankings read phrases

Letters are read for as long as a separator has a further letter behind it; a
separator without one is left to what comes next. Keys are told from letters by
the words they begin with, none of which a lone letter begins.
-/

theorem Facet.letter_ne_comma (facet : Facet) : facet.letter ≠ ',' := by
  cases facet <;> decide

namespace LetterToken

variable {cursor here after : Cursor} {token : LetterToken} {tokens : List LetterToken}

theorem derivesFurther_of_read
    (skipped : skipSeparator? cursor = some here)
    (read : LetterToken.read here = .ok (token, after)) :
    DerivesFurther cursor token after := by
  have derives := read_eq_ok_iff.mp read
  unfold skipSeparator? at skipped
  split at skipped
  · rename_i passed comma
    cases skipped
    exact .comma ((behind_iff (by decide) Derives.head?_ne_space).mpr ⟨passed, comma, derives⟩)
  · obtain ⟨spaced, space, rfl⟩ := Option.map_eq_some_iff.mp skipped
    exact .spaces ((spaced_iff Derives.head?_ne_space).mpr ⟨spaced, space, derives⟩)

/-- In front of a further letter stands a comma, or but for spaces the letter itself. -/
theorem DerivesFurther.nextSign_eq
    (derives : DerivesFurther cursor token after) :
    cursor.nextSign = some ',' ∨ cursor.nextSign = some token.facet.letter := by
  cases derives with
  | comma phrase => exact .inl (phrase.nextSign_eq (by decide))
  | spaces phrase =>
      obtain ⟨spaces, letter⟩ := phrase
      right
      rw [spaces.spaces.nextSign_eq, Cursor.nextSign_eq_head? letter.head?_ne_space,
        letter.head?_eq]

theorem DerivesFurther.exists_skipSeparator?
    (derives : DerivesFurther cursor token after) :
    ∃ here, skipSeparator? cursor = some here ∧ Derives here token after := by
  cases derives with
  | comma phrase =>
      obtain ⟨passed, comma, letter⟩ :=
        (behind_iff (by decide) Derives.head?_ne_space).mp phrase
      exact ⟨_, by simp only [skipSeparator?, comma], letter⟩
  | spaces phrase =>
      obtain ⟨spaces, letter⟩ := phrase
      obtain ⟨spaced, space, further⟩ := Cursor.someSpaces_iff.mp spaces
      rename_i here
      have reached := spaces.spaces.skipSpaces_eq_of_head? letter.head?_ne_space
      have notComma : here.rest.head? ≠ some ',' := by
        rw [letter.head?_eq]
        simpa using token.facet.letter_ne_comma
      have noComma : here.skip? ',' = none := Cursor.skip?_of_head? notComma
      refine ⟨here, ?_, letter⟩
      simp only [skipSeparator?, reached, noComma, space, Option.map_some,
        further.skipSpaces_eq_of_head? letter.head?_ne_space]

/-- The further letters that are read stand in a row. -/
theorem repeats_readMore (cursor : Cursor) :
    Repeats DerivesFurther cursor (readMore cursor).1 (readMore cursor).2 := by
  fun_induction readMore cursor with
  | case1 => exact .nil
  | case2 => exact .nil
  | case3 cursor here skipped token after read shorter more inductionHypothesis =>
      exact .cons (derivesFurther_of_read skipped read) inductionHypothesis

/-- Letters in a row are read up to a sign that is neither a comma nor a letter. -/
theorem readMore_of_repeats
    (repeats : Repeats DerivesFurther cursor tokens after)
    (noComma : after.nextSign ≠ some ',')
    (noLetter : ∀ next ∈ after.nextSign, Facet.ofLetter? next = none) :
    readMore cursor = (tokens, after) := by
  induction repeats with
  | nil =>
      rename_i cursor
      cases skipped : skipSeparator? cursor with
      | none => exact readMore_of_none skipped
      | some here =>
          cases read : LetterToken.read here with
          | error fault => exact readMore_of_error skipped read
          | ok found =>
              obtain ⟨token, behind⟩ := found
              rcases (derivesFurther_of_read skipped read).nextSign_eq with comma | letter
              · exact absurd comma noComma
              · have unknown := noLetter _ letter
                rw [Facet.ofLetter?_letter] at unknown
                cases unknown
  | cons first others inductionHypothesis =>
      obtain ⟨here, skipped, letter⟩ := first.exists_skipSeparator?
      rw [readMore_of_ok skipped (read_eq_ok_iff.mpr letter),
        inductionHypothesis noComma noLetter]

end LetterToken

namespace LetterList

variable {cursor after : Cursor} {list : LetterList}

/-- The letters that are read are a list of letters, possibly an empty one. -/
theorem derives_read
    (present : cursor.rest.head? ≠ some ' ') :
    Derives cursor (read cursor).1 (read cursor).2 := by
  unfold LetterList.read
  split
  · exact .empty present
  · rename_i first behind firstRead
    exact .letters (LetterToken.read_eq_ok_iff.mp firstRead) (LetterToken.repeats_readMore behind)

/-- A list of letters is read up to a sign that is neither a comma nor a letter. -/
theorem read_of_derives
    (derives : Derives cursor list after)
    (noComma : after.nextSign ≠ some ',')
    (noLetter : ∀ next ∈ after.nextSign, Facet.ofLetter? next = none) :
    LetterList.read cursor = (list, after) := by
  cases derives with
  | empty present =>
      cases read : LetterToken.read cursor with
      | error fault => simp only [LetterList.read, read]
      | ok found =>
          obtain ⟨token, behind⟩ := found
          have letter := (LetterToken.read_eq_ok_iff.mp read).head?_eq
          rw [Cursor.nextSign_eq_head? present] at noLetter
          have unknown := noLetter _ letter
          rw [Facet.ofLetter?_letter] at unknown
          cases unknown
  | letters first others =>
      simp only [LetterList.read, LetterToken.read_eq_ok_iff.mpr first,
        LetterToken.readMore_of_repeats others noComma noLetter]

theorem Derives.head?_ne_space
    (derives : Derives cursor list after) :
    cursor.rest.head? ≠ some ' ' := by
  cases derives with
  | empty present => exact present
  | letters first => exact first.head?_ne_space

end LetterList

namespace RankingItem

variable {cursor after : Cursor} {item : RankingItem} {items : List RankingItem}

theorem Derives.head?_ne_space
    (derives : Derives cursor item after) :
    cursor.rest.head? ≠ some ' ' := by
  cases derives with
  | criteriaCount word | firstLine word | lastLine word | precedence word =>
      rw [word.rest]
      intro space
      cases space

theorem derives_of_readPlain?
    (read : readPlain? cursor = some (item, after)) :
    Derives cursor item after := by
  obtain ⟨⟨word, kind⟩, listed, found⟩ := List.exists_of_findSome?_eq_some read
  obtain ⟨behind, skipped, same⟩ := Option.map_eq_some_iff.mp found
  cases same
  have passes := Cursor.skipWord?_eq_some_iff.mp skipped
  simp only [plainKeys, List.mem_cons, Prod.mk.injEq, List.not_mem_nil, or_false] at listed
  rcases listed with ⟨rfl, rfl⟩ | ⟨rfl, rfl⟩ | ⟨rfl, rfl⟩
  · exact .criteriaCount passes
  · exact .firstLine passes
  · exact .lastLine passes

/-- A key that is read is one. -/
theorem derives_of_read?
    (read : read? cursor = .ok (some (item, after))) :
    Derives cursor item after := by
  unfold read? at read
  split at read
  · rename_i found plain
    cases read
    exact derives_of_readPlain? plain
  · split at read
    · cases read
    · rename_i behindWord skipped
      split at read
      · cases read
      · rename_i list final listRead
        cases read
        unfold LetterList.readParenthesized at listRead
        dsimp only at listRead
        split at listRead
        · cases listRead
        · rename_i opened opens
          split at listRead
          · cases listRead
          · rename_i closed closes
            cases listRead
            exact .precedence (Cursor.skipWord?_eq_some_iff.mp skipped)
              behindWord.spaces_skipSpaces (Cursor.skip?_eq_some_iff.mp opens)
              opened.spaces_skipSpaces (LetterList.derives_read opened.head?_skipSpaces)
              (Cursor.spaces_skipSpaces _) (Cursor.skip?_eq_some_iff.mp closes)

/-- A key is read, whatever follows it. -/
theorem read?_of_derives
    (derives : Derives cursor item after) :
    read? cursor = .ok (some (item, after)) := by
  cases derives with
  | criteriaCount word | firstLine word | lastLine word =>
      obtain ⟨column, rest, rfl, rfl⟩ := word.shape
      rfl
  | precedence word before opens spaces letters further closes =>
      rename_i behindWord opening opened here behind closing list
      obtain ⟨column, rest, rfl, rfl⟩ := word.shape
      have notPlain : readPlain? ⟨column, "criterium".toList ++ rest⟩ = none := rfl
      have skipped :
          Cursor.skipWord? ⟨column, "criterium".toList ++ rest⟩ precedenceWord =
            some ⟨column + "criterium".toList.length, rest⟩ :=
        Cursor.skipWord?_append
      have openingHead : opening.rest.head? ≠ some ' ' := by simp [opens.head?_eq]
      have closingHead : closing.rest.head? ≠ some ' ' := by simp [closes.head?_eq]
      have closingSign : behind.nextSign = some ')' := by
        rw [further.nextSign_eq, Cursor.nextSign_eq_head? closingHead, closes.head?_eq]
      have listRead : LetterList.read here = (list, behind) := by
        apply LetterList.read_of_derives letters
        · simp [closingSign]
        · rw [closingSign]
          rintro next ⟨⟩
          decide
      simp only [read?, notPlain, skipped, LetterList.readParenthesized,
        before.skipSpaces_eq_of_head? openingHead, Cursor.skip?_eq_some_iff.mpr opens,
        spaces.skipSpaces_eq_of_head? letters.head?_ne_space, listRead,
        further.skipSpaces_eq_of_head? closingHead, Cursor.skip?_eq_some_iff.mpr closes]

theorem repeats_of_readMore
    (read : readMore cursor = .ok (items, after)) :
    Repeats (Behind ',' Derives) cursor items after := by
  fun_induction readMore cursor generalizing items with
  | case1 =>
      cases read
      exact .nil
  | case2 => cases read
  | case3 =>
      cases read
      exact .nil
  | case4 => cases read
  | case5 cursor passed comma item behind itemRead shorter more moreRead inductionHypothesis =>
      cases read
      have first : Behind ',' Derives cursor item behind :=
        (behind_iff (by decide) Derives.head?_ne_space).mpr
          ⟨passed, comma, derives_of_read? itemRead⟩
      exact .cons first (inductionHypothesis moreRead)

/-- Keys are read as long as there is a comma in front of a further one. -/
theorem readMore_of_repeats
    (repeats : Repeats (Behind ',' Derives) cursor items after)
    (noComma : after.nextSign ≠ some ',') :
    readMore cursor = .ok (items, after) := by
  induction repeats with
  | nil => exact readMore_of_none (Cursor.skip?_of_head? noComma)
  | cons first others inductionHypothesis =>
      obtain ⟨passed, comma, derives⟩ :=
        (behind_iff (by decide) Derives.head?_ne_space).mp first
      exact readMore_of_ok comma (read?_of_derives derives) (inductionHypothesis noComma)

theorem read?_eq_none
    (noPlain : ∀ entry ∈ plainKeys, cursor.skipWord? entry.1 = none)
    (noWord : cursor.skipWord? precedenceWord = none) :
    read? cursor = .ok none := by
  have plain : readPlain? cursor = none := by
    rw [readPlain?, List.findSome?_eq_none_iff]
    rintro ⟨word, kind⟩ member
    simp only [noPlain _ member, Option.map_none]
  simp only [read?, plain, noWord]

/-- A list of letters begins with a letter, unless it is empty. -/
theorem begins_of_letters
    {list : LetterList}
    (derives : LetterList.Derives cursor list after)
    (ends : ∀ next ∈ after.nextSign, next = '#') :
    ∀ first ∈ cursor.rest.head?, first = '#' ∨ (Facet.ofLetter? first).isSome = true := by
  intro first head
  cases derives with
  | empty present =>
      rw [Cursor.nextSign_eq_head? present] at ends
      exact .inl (ends first head)
  | letters letter =>
      rw [letter.head?_eq] at head
      right
      rw [← Option.some.inj head, Facet.ofLetter?_letter]
      rfl

/-- A letter that stands alone does not begin the word of a key. -/
theorem not_passes_precedenceWord
    {list : LetterList}
    (derives : LetterList.Derives cursor list after)
    (ends : ∀ next ∈ after.nextSign, next = '#')
    (behind : Cursor) :
    ¬ cursor.Passes precedenceWord behind := by
  have wordCharacter : isWordCharacter 'r' = true := by decide +kernel
  intro passes
  have head : cursor.rest = 'c' :: 'r' :: ("iterium".toList ++ behind.rest) := passes.rest
  cases derives with
  | empty present =>
      rw [Cursor.nextSign_eq_head? present, head] at ends
      cases ends 'c' rfl
  | letters letter =>
      cases letter with
      | letter letterPasses alone =>
          rw [letterPasses.rest, List.singleton_append, List.cons.injEq] at head
          rw [head.2] at alone
          rw [alone 'r' rfl] at wordCharacter
          cases wordCharacter

/-- No key is read where a letter stands, or nothing but a comment. -/
theorem read?_of_letters
    {list : LetterList}
    (derives : LetterList.Derives cursor list after)
    (ends : ∀ next ∈ after.nextSign, next = '#') :
    read? cursor = .ok none := by
  have begins := begins_of_letters derives ends
  refine read?_eq_none ?_ (Cursor.skipWord?_eq_none (not_passes_precedenceWord derives ends))
  intro entry member
  refine Cursor.skipWord?_eq_none fun behind passes => ?_
  simp only [plainKeys, List.mem_cons, List.not_mem_nil, or_false] at member
  rcases member with rfl | rfl | rfl
  · exact absurd (begins 'n' passes.head?_eq) (by decide)
  · exact absurd (begins 'f' passes.head?_eq) (by decide)
  · exact absurd (begins 'l' passes.head?_eq) (by decide)

theorem deriveAll_of_readAll
    (present : cursor.rest.head? ≠ some ' ')
    (read : readAll cursor = .ok (items, after)) :
    DeriveAll cursor items after := by
  unfold readAll at read
  split at read
  · cases read
  · cases read
    exact .letters (LetterList.derives_read present)
  · rename_i item behind itemRead
    split at read
    · cases read
    · rename_i more moreRead
      cases read
      exact .keys (derives_of_read? itemRead) (repeats_of_readMore moreRead)

theorem DeriveAll.head?_ne_space
    (derive : DeriveAll cursor items after) :
    cursor.rest.head? ≠ some ' ' := by
  cases derive with
  | keys first => exact first.head?_ne_space
  | letters letters => exact letters.head?_ne_space

/-- The items of a ranking line are read when only a comment may follow them. -/
theorem readAll_of_deriveAll
    (derive : DeriveAll cursor items after)
    (ends : ∀ next ∈ after.nextSign, next = '#') :
    readAll cursor = .ok (items, after) := by
  have noComma : after.nextSign ≠ some ',' := by
    intro comma
    cases ends ',' comma
  cases derive with
  | keys first others =>
      simp only [readAll, read?_of_derives first, readMore_of_repeats others noComma]
  | letters letters =>
      have noLetter : ∀ next ∈ after.nextSign, Facet.ofLetter? next = none := by
        intro next sign
        cases ends next sign
        decide
      simp only [readAll, read?_of_letters letters ends,
        LetterList.read_of_derives letters noComma noLetter]

end RankingItem

end LendingRules
