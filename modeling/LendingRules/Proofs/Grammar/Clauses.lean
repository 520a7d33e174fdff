import LendingRules.Proofs.Grammar.Tokens

namespace LendingRules

/-!
# Readers of clauses read phrases

Criteria go on for as long as plus signs announce further ones, and the names of
a criterion up to a sign that begins no name. Policies go on to the end of the
line, so that nothing may follow them but a comment.
-/

/-- In front of phrases in a row stands their sign, or what follows them. -/
theorem nextSign_of_repeats
    {Value : Type}
    {Phrase : Cursor → Value → Cursor → Prop}
    {cursor after : Cursor}
    {values : List Value}
    {sign : Char}
    (notSpace : sign ≠ ' ')
    (repeats : Repeats (Behind sign Phrase) cursor values after) :
    cursor.nextSign = some sign ∨ cursor.nextSign = after.nextSign := by
  cases repeats with
  | nil => exact .inr rfl
  | cons first others => exact .inl (first.nextSign_eq notSpace)

namespace CriterionToken

variable {cursor after : Cursor} {token : CriterionToken} {tokens : List CriterionToken}

theorem Derives.head?_eq
    (derives : Derives cursor token after) :
    cursor.rest.head? = some token.facet.letter := by
  cases derives with
  | criterion begins => exact begins.head?_eq

theorem Derives.head?_ne_space
    (derives : Derives cursor token after) :
    cursor.rest.head? ≠ some ' ' := by
  rw [derives.head?_eq]
  simpa using token.facet.letter_ne_space

theorem derives_of_read
    {problem : SyntaxProblem}
    (read : CriterionToken.read problem cursor = .ok (token, after)) :
    Derives cursor token after := by
  unfold CriterionToken.read at read
  split at read
  · cases read
  · rename_i letter behindLetter letterRead
    split at read
    · cases read
    · rename_i name behindName nameRead
      cases read
      exact .criterion (LetterToken.read_eq_ok_iff.mp letterRead)
        (NameToken.read_eq_ok_iff.mp nameRead) (NameToken.repeats_readMore behindName)

/-- A criterion is read up to a sign that begins no further name. -/
theorem read_of_derives
    (problem : SyntaxProblem)
    (derives : Derives cursor token after)
    (ends : ∀ next ∈ after.nextSign, beginsName next = false) :
    CriterionToken.read problem cursor = .ok (token, after) := by
  cases derives with
  | criterion begins first others =>
      simp only [CriterionToken.read, LetterToken.read_eq_ok_iff.mpr begins,
        NameToken.read_eq_ok_iff.mpr first, NameToken.readMore_of_repeats others ends]

theorem repeats_of_readMore
    (read : readMore cursor = .ok (tokens, after)) :
    Repeats (Behind '+' Derives) cursor tokens after := by
  fun_induction readMore cursor generalizing tokens with
  | case1 =>
      cases read
      exact .nil
  | case2 => cases read
  | case3 => cases read
  | case4 cursor here skipped token behind tokenRead shorter more moreRead inductionHypothesis =>
      cases read
      obtain ⟨passed, plus, rfl⟩ := Option.map_eq_some_iff.mp skipped
      have first : Behind '+' Derives cursor token behind :=
        (behind_iff (by decide) Derives.head?_ne_space).mpr
          ⟨passed, plus, derives_of_read tokenRead⟩
      exact .cons first (inductionHypothesis moreRead)

/-- Criteria are read as long as there is a plus sign in front of a further one. -/
theorem readMore_of_repeats
    (repeats : Repeats (Behind '+' Derives) cursor tokens after)
    (ends : ∀ next ∈ after.nextSign, beginsName next = false)
    (noPlus : after.nextSign ≠ some '+') :
    readMore cursor = .ok (tokens, after) := by
  induction repeats with
  | nil =>
      apply readMore_of_none
      rw [skipPlus?, Option.map_eq_none_iff]
      exact Cursor.skip?_of_head? noPlus
  | cons first others inductionHypothesis =>
      rename_i behind _ _ _
      obtain ⟨passed, plus, derives⟩ :=
        (behind_iff (by decide) Derives.head?_ne_space).mp first
      have tokenEnds : ∀ next ∈ behind.nextSign, beginsName next = false := by
        rcases nextSign_of_repeats (by decide) others with same | same
        · rw [same]
          simp [beginsName]
        · rw [same]
          exact ends
      refine readMore_of_ok ?_ (read_of_derives _ derives tokenEnds)
        (inductionHypothesis ends noPlus)
      rw [skipPlus?, plus]
      rfl

end CriterionToken

theorem PolicyType.continuesName_letter
    (type : PolicyType) :
    continuesName type.letter = true := by
  cases type <;> decide

namespace PolicyToken

variable {cursor after : Cursor} {token : PolicyToken}

theorem Derives.head?_eq
    (derives : Derives cursor token after) :
    cursor.rest.head? = some token.type.letter := by
  cases derives with
  | policy letter => exact letter.head?_eq

theorem Derives.head?_ne_space
    (derives : Derives cursor token after) :
    cursor.rest.head? ≠ some ' ' := by
  rw [derives.head?_eq]
  simpa using token.type.letter_ne_space

theorem Derives.endsName
    (derives : Derives cursor token after) :
    EndsName after.rest := by
  cases derives with
  | policy letter spaces passes => exact passes.ends

/-- A word that stands for a type is the letter of the type. -/
theorem typeOfWord?_eq_some_iff
    {word : List Char}
    {type : PolicyType} :
    typeOfWord? word = some type ↔ word = [type.letter] := by
  unfold typeOfWord?
  split
  · rename_i letter
    rw [PolicyType.ofLetter?_eq_some_iff, List.singleton_inj, eq_comm]
  · rename_i notSingle
    simp only [reduceCtorEq, false_iff]
    exact fun single => notSingle _ single

/-- A word in front of a name is followed by a space. -/
theorem head?_eq_space_of_passesName
    {behind : Cursor}
    {name : List Char}
    (word : ∀ next ∈ behind.rest.head?, next = ' ')
    (passes : behind.skipSpaces.PassesName name after) :
    behind.rest.head? = some ' ' := by
  cases first : behind.rest.head? with
  | some next => rw [word next first]
  | none =>
      have notSpace : behind.rest.head? ≠ some ' ' := by
        rw [first]
        exact (Option.some_ne_none _).symm
      rw [Cursor.skipSpaces_eq_self notSpace] at passes
      obtain ⟨begins, found, -⟩ := passes.exists_begins
      rw [first] at found
      cases found

theorem derives_of_read
    (read : PolicyToken.read cursor = .ok (token, after)) :
    Derives cursor token after := by
  unfold PolicyToken.read at read
  dsimp only at read
  split at read
  · cases read
  · rename_i type typed
    split at read
    · cases read
    · rename_i name final named
      cases read
      have passes := cursor.passes_span (· ≠ ' ')
      rw [typeOfWord?_eq_some_iff.mp typed] at passes
      have named := Cursor.readName?_eq_some_iff.mp named
      have ends : ∀ next ∈ (cursor.span (· ≠ ' ')).2.rest.head?, next = ' ' := by
        intro next head
        simpa using cursor.test_of_head?_span head
      exact .policy passes
        (Cursor.someSpaces_skipSpaces (head?_eq_space_of_passesName ends named)) named

theorem read_of_derives
    (derives : Derives cursor token after) :
    PolicyToken.read cursor = .ok (token, after) := by
  cases derives with
  | policy letter spaces passes =>
      rename_i behind here type name
      obtain ⟨spaced, skipped, further⟩ := Cursor.someSpaces_iff.mp spaces
      have space := (Cursor.skip?_eq_some_iff.mp skipped).head?_eq
      obtain ⟨column, rest, rfl, rfl⟩ := letter.shape
      have word :
          Cursor.span ⟨column, [type.letter] ++ rest⟩ (· ≠ ' ') =
            ([type.letter], ⟨column + [type.letter].length, rest⟩) := by
        refine Cursor.span_append (by simp [type.letter_ne_space]) ?_
        intro next head
        cases Option.some.inj (space.symm.trans head)
        rfl
      simp only [PolicyToken.read, word, typeOfWord?_eq_some_iff.mpr rfl,
        spaces.spaces.skipSpaces_eq_of_head? passes.head?_ne_space,
        Cursor.readName?_eq_some_iff.mpr passes]

/-- Exactly the policies are read. -/
theorem read_eq_ok_iff :
    PolicyToken.read cursor = .ok (token, after) ↔ Derives cursor token after :=
  ⟨derives_of_read, read_of_derives⟩

end PolicyToken

namespace PolicyList

variable {cursor after : Cursor} {tokens : List PolicyToken}

/-- Behind a name the further policies that are read stand in a row. -/
theorem repeats_of_readTokens
    (ends : EndsName cursor.rest)
    (read : readTokens cursor = .ok (tokens, after)) :
    ∃ last, Repeats (Spaced PolicyToken.Derives) cursor tokens last ∧ last.Spaces after := by
  fun_induction readTokens cursor generalizing tokens with
  | case1 cursor =>
      simp only [Except.ok.injEq, Prod.mk.injEq] at read
      obtain ⟨rfl, rfl⟩ := read
      exact ⟨cursor, .nil, cursor.spaces_skipSpaces⟩
  | case2 => cases read
  | case3 => cases read
  | case4 cursor here goesOn token behind tokenRead shorter more moreRead =>
      rename_i inductionHypothesis
      simp only [Except.ok.injEq, Prod.mk.injEq] at read
      obtain ⟨rfl, rfl⟩ := read
      have derives : PolicyToken.Derives cursor.skipSpaces token behind :=
        PolicyToken.read_eq_ok_iff.mp tokenRead
      obtain ⟨last, repeats, spaces⟩ := inductionHypothesis derives.endsName moreRead
      -- A type letter right behind the name would continue it.
      have space : cursor.rest.head? = some ' ' := by
        refine Decidable.byContradiction fun notSpace => ?_
        have head := derives.head?_eq
        rw [Cursor.skipSpaces_eq_self notSpace] at head
        have continues := ends _ head
        rw [token.type.continuesName_letter] at continues
        cases continues
      exact ⟨last, .cons (.spaced (Cursor.someSpaces_skipSpaces space) derives) repeats, spaces⟩

theorem deriveTokens_of_readTokens
    (read : readTokens cursor = .ok (tokens, after)) :
    ∃ last, DeriveTokens cursor tokens last ∧ last.Spaces after := by
  rw [readTokens] at read
  dsimp only at read
  split at read
  · cases read
    exact ⟨_, .nil (cursor.spaces_skipSpaces), Cursor.spaces_refl _⟩
  · split at read
    · cases read
    · rename_i token behind tokenRead
      split at read
      · cases read
      · rename_i more moreRead
        cases read
        have derives := PolicyToken.read_eq_ok_iff.mp tokenRead
        obtain ⟨last, repeats, spaces⟩ := repeats_of_readTokens derives.endsName moreRead
        exact ⟨last, .cons cursor.spaces_skipSpaces derives repeats, spaces⟩

/-- A policy stands where the line is not at its end. -/
theorem atEnd_eq_false
    {token : PolicyToken}
    (derives : PolicyToken.Derives cursor token after) :
    cursor.atEnd = false := by
  obtain ⟨rest, shape⟩ := List.head?_eq_some_iff.mp derives.head?_eq
  simp [Cursor.atEnd, shape, token.type.letter_ne_hash]

/-- Policies in a row are read up to the end of the line. -/
theorem readTokens_of_repeats
    (repeats : Repeats (Spaced PolicyToken.Derives) cursor tokens after)
    (ended : after.skipSpaces.atEnd = true) :
    readTokens cursor = .ok (tokens, after.skipSpaces) := by
  induction repeats with
  | nil => exact readTokens_of_atEnd ended
  | cons first others inductionHypothesis =>
      obtain ⟨spaces, derives⟩ := first
      have reached := spaces.spaces.skipSpaces_eq_of_head? derives.head?_ne_space
      refine readTokens_of_ok ?_ ?_ (inductionHypothesis ended)
      · rw [reached]
        exact atEnd_eq_false derives
      · rw [reached]
        exact PolicyToken.read_eq_ok_iff.mpr derives

theorem readTokens_of_deriveTokens
    (derive : DeriveTokens cursor tokens after)
    (ended : after.skipSpaces.atEnd = true) :
    readTokens cursor = .ok (tokens, after.skipSpaces) := by
  cases derive with
  | nil spaces =>
      rw [← spaces.skipSpaces_eq] at ended ⊢
      exact readTokens_of_atEnd ended
  | cons spaces first others =>
      have reached := spaces.skipSpaces_eq_of_head? first.head?_ne_space
      refine readTokens_of_ok ?_ ?_ (readTokens_of_repeats others ended)
      · rw [reached]
        exact atEnd_eq_false first
      · rw [reached]
        exact PolicyToken.read_eq_ok_iff.mpr first

variable {list : PolicyList}

theorem Derives.head?_eq
    (derives : Derives cursor list after) :
    cursor.rest.head? = some ':' := by
  cases derives with
  | list colon => exact colon.head?_eq

theorem Derives.head?_ne_space
    (derives : Derives cursor list after) :
    cursor.rest.head? ≠ some ' ' := by
  rw [derives.head?_eq]
  decide

theorem derives_of_read?
    (read : read? cursor = .ok (some (list, after))) :
    ∃ last, Derives cursor list last ∧ last.Spaces after := by
  unfold read? at read
  split at read
  · cases read
  · rename_i behind colon
    split at read
    · cases read
    · rename_i tokens final tokensRead
      cases read
      obtain ⟨last, derive, spaces⟩ := deriveTokens_of_readTokens tokensRead
      exact ⟨last, .list (Cursor.skip?_eq_some_iff.mp colon) derive, spaces⟩

/-- A policy list is read when nothing else is left on the line. -/
theorem read?_of_derives
    (derives : Derives cursor list after)
    (ended : after.skipSpaces.atEnd = true) :
    read? cursor = .ok (some (list, after.skipSpaces)) := by
  cases derives with
  | list colon policies =>
      simp only [read?, Cursor.skip?_eq_some_iff.mpr colon,
        readTokens_of_deriveTokens policies ended]

theorem read?_of_head?_ne_colon
    (different : cursor.rest.head? ≠ some ':') :
    read? cursor = .ok none := by
  have skipped : cursor.skip? ':' = none := Cursor.skip?_of_head? different
  simp only [read?, skipped]

end PolicyList

end LendingRules
