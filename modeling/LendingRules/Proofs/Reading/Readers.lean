import LendingRules.Statement.OfLine

namespace LendingRules

/-!
# How the readers move

What the readers of words, names and lists do at a cursor, said without the
recursion by which they are defined: a reader moves over what it is given and
stands behind it, and a reader of many goes on for as long as there is one more.
-/

namespace Cursor

variable {column : Nat} {word rest : List Char} {character : Char} {test : Char → Bool}

theorem span_append
    (inside : ∀ character ∈ word, test character = true)
    (ends : ∀ next ∈ rest.head?, test next = false) :
    span ⟨column, word ++ rest⟩ test = (word, ⟨column + word.length, rest⟩) := by
  have stop : rest.takeWhile test = [] ∧ rest.dropWhile test = rest := by
    cases rest with
    | nil => exact ⟨rfl, rfl⟩
    | cons next others =>
        have fails : test next = false := ends next rfl
        simp [fails]
  have read : (word ++ rest).takeWhile test = word := by
    rw [List.takeWhile_append_of_pos inside, stop.1, List.append_nil]
  have left : (word ++ rest).dropWhile test = rest := by
    rw [List.dropWhile_append_of_pos inside, stop.2]
  simp only [span, read, left]

theorem skipSpaces_of_head?
    (present : rest.head? ≠ some ' ') :
    skipSpaces ⟨column, rest⟩ = ⟨column, rest⟩ := by
  have ends : ∀ next ∈ rest.head?, decide (next = ' ') = false := by
    intro next first
    rw [decide_eq_false_iff_not]
    intro same
    exact present (same ▸ first)
  have spanned : span ⟨column, [] ++ rest⟩ (· = ' ') = ([], ⟨column + 0, rest⟩) :=
    span_append (by simp) ends
  exact congrArg Prod.snd spanned

theorem skipSpaces_space :
    skipSpaces ⟨column, ' ' :: rest⟩ = skipSpaces ⟨column + 1, rest⟩ := by
  simp only [skipSpaces, span, decide_true, List.takeWhile_cons_of_pos,
    List.dropWhile_cons_of_pos, List.length_cons]
  congr 1
  omega

theorem skip?_cons :
    skip? ⟨column, character :: rest⟩ character = some ⟨column + 1, rest⟩ := by
  simp [skip?]

theorem skip?_of_head?
    (different : rest.head? ≠ some character) :
    skip? ⟨column, rest⟩ character = none := by
  cases rest with
  | nil => rfl
  | cons next others =>
      have apart : next ≠ character := by simpa using different
      simp [skip?, apart]

theorem skipWord?_append :
    skipWord? ⟨column, word ++ rest⟩ word = some ⟨column + word.length, rest⟩ := by
  have begins : word.isPrefixOf (word ++ rest) = true :=
    List.isPrefixOf_iff_prefix.mpr (List.prefix_append word rest)
  simp [skipWord?, begins]

end Cursor

/-- A word that is read as one name. -/
def IsName : List Char → Prop
  | [] => False
  | first :: others =>
      beginsName first = true ∧ ∀ character ∈ others, continuesName character = true

theorem IsName.continues
    {name : List Char}
    (isName : IsName name) :
    ∀ character ∈ name, continuesName character = true := by
  cases name with
  | nil => exact isName.elim
  | cons first others =>
      intro character member
      rcases List.mem_cons.mp member with same | behind
      · subst same
        have begins := isName.1
        simp only [beginsName, Bool.and_eq_true] at begins
        simp only [continuesName, Bool.and_eq_true]
        exact begins.1.1
      · exact isName.2 character behind

/-- The rest of a line that does not continue a name before it. -/
def EndsName (rest : List Char) : Prop :=
  ∀ next ∈ rest.head?, continuesName next = false

theorem endsName_space (rest : List Char) : EndsName (' ' :: rest) := by
  intro next first
  cases Option.mem_def.mp first
  rfl

theorem IsName.head?_ne_space
    {name rest : List Char}
    (isName : IsName name) :
    (name ++ rest).head? ≠ some ' ' := by
  cases name with
  | nil => exact isName.elim
  | cons first others =>
      intro space
      cases (Option.some.inj space : first = ' ')
      have begins := isName.1
      simp [beginsName] at begins

theorem readName?_append
    {column : Nat}
    {name rest : List Char}
    (isName : IsName name)
    (ends : EndsName rest) :
    readName? ⟨column, name ++ rest⟩ = some (name, ⟨column + name.length, rest⟩) := by
  cases name with
  | nil => exact isName.elim
  | cons first others =>
      have spanned :
          Cursor.span ⟨column + 1, others ++ rest⟩ continuesName =
            (others, ⟨column + 1 + others.length, rest⟩) :=
        Cursor.span_append isName.2 ends
      simp only [readName?, List.cons_append, isName.1, ↓reduceIte, spanned,
        List.length_cons]
      congr 3
      omega

theorem Facet.letter_ne_space (facet : Facet) : facet.letter ≠ ' ' := by
  cases facet <;> decide

theorem PolicyType.letter_ne_space (type : PolicyType) : type.letter ≠ ' ' := by
  cases type <;> decide

theorem PolicyType.letter_ne_hash (type : PolicyType) : type.letter ≠ '#' := by
  cases type <;> decide

namespace NameToken

variable {cursor after : Cursor} {token : NameToken}

theorem readMore_of_error
    {fault : Nat}
    (read : NameToken.read cursor = .error fault) :
    readMore cursor = ([], cursor) := by
  unfold readMore
  split
  · rfl
  · rename_i succeeded
    rw [read] at succeeded
    cases succeeded

theorem readMore_of_ok
    (read : NameToken.read cursor = .ok (token, after)) :
    readMore cursor = (token :: (readMore after).1, (readMore after).2) := by
  rw [readMore]
  split
  · rename_i failed
    rw [read] at failed
    cases failed
  · rename_i succeeded
    rw [read] at succeeded
    cases succeeded
    rfl

end NameToken

namespace CriterionToken

variable {cursor here after : Cursor} {token : CriterionToken}

theorem readMore_of_none
    (skipped : skipPlus? cursor = none) :
    readMore cursor = .ok ([], cursor) := by
  unfold readMore
  split
  · rfl
  · rename_i found
    rw [skipped] at found
    cases found

theorem readMore_of_ok
    {more : List CriterionToken × Cursor}
    (skipped : skipPlus? cursor = some here)
    (read : CriterionToken.read .furtherCriterionExpected here = .ok (token, after))
    (moreRead : readMore after = .ok more) :
    readMore cursor = .ok (token :: more.1, more.2) := by
  rw [readMore]
  split
  · rename_i unfound
    rw [skipped] at unfound
    cases unfound
  · rename_i found
    rw [skipped] at found
    cases found
    split
    · rename_i failed
      rw [read] at failed
      cases failed
    · rename_i succeeded
      rw [read] at succeeded
      cases succeeded
      rw [moreRead]

end CriterionToken

namespace PolicyList

theorem readTokens_of_atEnd
    {cursor : Cursor}
    (ended : cursor.skipSpaces.atEnd = true) :
    readTokens cursor = .ok ([], cursor.skipSpaces) := by
  rw [readTokens]
  simp [ended]

theorem readTokens_of_ok
    {cursor after : Cursor}
    {token : PolicyToken}
    {more : List PolicyToken × Cursor}
    (goesOn : cursor.skipSpaces.atEnd = false)
    (read : PolicyToken.read cursor.skipSpaces = .ok (token, after))
    (moreRead : readTokens after = .ok more) :
    readTokens cursor = .ok (token :: more.1, more.2) := by
  rw [readTokens]
  simp only [goesOn, Bool.false_eq_true, ↓reduceIte]
  split
  · rename_i failed
    rw [read] at failed
    cases failed
  · rename_i succeeded
    rw [read] at succeeded
    cases succeeded
    rw [moreRead]

end PolicyList

namespace LetterToken

variable {cursor here after : Cursor} {token : LetterToken}

theorem read_letter
    {column : Nat}
    {facet : Facet}
    {rest : List Char}
    (alone : rest.head?.any isWordCharacter = false) :
    LetterToken.read ⟨column, facet.letter :: rest⟩ =
      .ok (⟨facet, column⟩, ⟨column + 1, rest⟩) := by
  simp [LetterToken.read, alone]

theorem readMore_of_none
    (skipped : skipSeparator? cursor = none) :
    readMore cursor = ([], cursor) := by
  unfold readMore
  split
  · rfl
  · rename_i found
    rw [skipped] at found
    cases found

theorem readMore_of_error
    {fault : Nat}
    (skipped : skipSeparator? cursor = some here)
    (read : LetterToken.read here = .error fault) :
    readMore cursor = ([], cursor) := by
  rw [readMore]
  split
  · rfl
  · rename_i found
    rw [skipped] at found
    cases found
    split
    · rfl
    · rename_i succeeded
      rw [read] at succeeded
      cases succeeded

theorem readMore_of_ok
    (skipped : skipSeparator? cursor = some here)
    (read : LetterToken.read here = .ok (token, after)) :
    readMore cursor = (token :: (readMore after).1, (readMore after).2) := by
  rw [readMore]
  split
  · rename_i unfound
    rw [skipped] at unfound
    cases unfound
  · rename_i found
    rw [skipped] at found
    cases found
    split
    · rename_i failed
      rw [read] at failed
      cases failed
    · rename_i succeeded
      rw [read] at succeeded
      cases succeeded
      rfl

end LetterToken

namespace RankingItem

variable {cursor after behindComma : Cursor} {item : RankingItem}

theorem readMore_of_none
    (skipped : cursor.skipSpaces.skip? ',' = none) :
    readMore cursor = .ok ([], cursor) := by
  unfold readMore
  split
  · rfl
  · rename_i found
    rw [skipped] at found
    cases found

theorem readMore_of_ok
    {more : List RankingItem × Cursor}
    (skipped : cursor.skipSpaces.skip? ',' = some behindComma)
    (read : read? behindComma.skipSpaces = .ok (some (item, after)))
    (moreRead : readMore after = .ok more) :
    readMore cursor = .ok (item :: more.1, more.2) := by
  rw [readMore]
  split
  · rename_i unfound
    rw [skipped] at unfound
    cases unfound
  · rename_i found
    rw [skipped] at found
    cases found
    split
    · rename_i failed
      rw [read] at failed
      cases failed
    · rename_i missing
      rw [read] at missing
      cases missing
    · rename_i succeeded
      rw [read] at succeeded
      cases succeeded
      rw [moreRead]

end RankingItem

/-- What begins with the letter of a facet is not taken for one that a word announces. -/
theorem Statement.skipWord?_letter
    {column : Nat}
    {facet : Facet}
    {rest : List Char} :
    Cursor.skipWord? ⟨column, facet.letter :: rest⟩ rankingWord = none ∧
      Cursor.skipWord? ⟨column, facet.letter :: rest⟩ fallbackWord = none := by
  cases facet <;> exact ⟨rfl, rfl⟩

end LendingRules
