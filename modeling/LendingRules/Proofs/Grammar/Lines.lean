import LendingRules.Proofs.Grammar.Rankings
import LendingRules.Proofs.Reading.Flattening

namespace LendingRules

/-!
# Exactly the grammatical texts are read

A line states what it derives from, and nothing on it is left out: behind the
statement there is but a comment. A text is read when its lines, those that say
nothing apart, derive from the grammar, the first and only the first of them as
a ranking.
-/

namespace Cursor

variable {cursor : Cursor}

theorem atEnd_iff_exists :
    cursor.atEnd = true ↔ cursor.rest = [] ∨ ∃ comment, cursor.rest = '#' :: comment := by
  unfold atEnd
  cases cursor.rest <;> simp

theorem nextSign_of_atEnd
    (ended : cursor.skipSpaces.atEnd = true) :
    ∀ next ∈ cursor.nextSign, next = '#' :=
  atEnd_iff.mp ended

end Cursor

theorem CriterionToken.read_of_repeats
    {cursor behind after : Cursor}
    {token : CriterionToken}
    {tokens : List CriterionToken}
    (first : Derives cursor token behind)
    (others : Repeats (Behind '+' Derives) behind tokens after)
    (ends : ∀ next ∈ after.nextSign, beginsName next = false)
    (noPlus : after.nextSign ≠ some '+')
    (problem : SyntaxProblem) :
    CriterionToken.read problem cursor = .ok (token, behind) ∧
      readMore behind = .ok (tokens, after) := by
  refine ⟨read_of_derives problem first ?_, readMore_of_repeats others ends noPlus⟩
  rcases nextSign_of_repeats (by decide) others with same | same
  · rw [same]
    simp [beginsName]
  · rw [same]
    exact ends

namespace Statement

variable {cursor after last : Cursor} {clause : Clause} {statement : Statement}

theorem derives_of_readCriteria
    (read : readCriteria cursor = .ok (clause, after)) :
    ∃ last, Derives cursor (.clause clause) last ∧ last.Spaces after := by
  obtain ⟨⟨first, behindFirst⟩, firstRead, read⟩ := bind_eq_ok_iff.mp read
  obtain ⟨⟨others, behindCriteria⟩, othersRead, read⟩ := bind_eq_ok_iff.mp read
  obtain ⟨list?, listRead, read⟩ := bind_eq_ok_iff.mp read
  have begins := CriterionToken.derives_of_read firstRead
  have repeats := CriterionToken.repeats_of_readMore othersRead
  split at read
  · cases read
    exact ⟨behindCriteria, .header begins repeats, behindCriteria.spaces_skipSpaces⟩
  · cases read
    obtain ⟨last, derives, spaces⟩ := PolicyList.derives_of_read? listRead
    exact ⟨last, .rule begins repeats behindCriteria.spaces_skipSpaces derives, spaces⟩

theorem derives_of_readFallback
    {behindWord : Cursor}
    (word : cursor.Passes fallbackWord behindWord)
    (read : readFallback behindWord = .ok (clause, after)) :
    ∃ last, Derives cursor (.clause clause) last ∧ last.Spaces after := by
  obtain ⟨list?, listRead, read⟩ := bind_eq_ok_iff.mp read
  split at read
  · cases read
  · cases read
    obtain ⟨last, derives, spaces⟩ := PolicyList.derives_of_read? listRead
    exact ⟨last, .fallback word behindWord.spaces_skipSpaces derives, spaces⟩

theorem derives_of_readRanking
    {behindWord : Cursor}
    {items : List RankingItem}
    (word : cursor.Passes rankingWord behindWord)
    (read : readRanking behindWord = .ok (items, after)) :
    Derives cursor (.ranking items) after := by
  unfold readRanking at read
  dsimp only at read
  split at read
  · cases read
  · rename_i behindColon colon
    exact .ranking word behindWord.spaces_skipSpaces (Cursor.skip?_eq_some_iff.mp colon)
      behindColon.spaces_skipSpaces
      (RankingItem.deriveAll_of_readAll behindColon.head?_skipSpaces read)

/-- What is read as a statement derives from the grammar, but for spaces behind it. -/
theorem derives_of_read
    (read : Statement.read cursor = .ok (statement, after)) :
    ∃ last, Derives cursor statement last ∧ last.Spaces after := by
  unfold Statement.read at read
  split at read
  · rename_i behindWord word
    obtain ⟨⟨items, final⟩, rankingRead, made⟩ := bind_eq_ok_iff.mp read
    cases made
    exact ⟨_, derives_of_readRanking (Cursor.skipWord?_eq_some_iff.mp word) rankingRead,
      Cursor.spaces_refl _⟩
  · dsimp only at read
    split at read
    · rename_i behindWord word
      obtain ⟨⟨clause, final⟩, clauseRead, made⟩ := bind_eq_ok_iff.mp read
      cases made
      exact derives_of_readFallback (Cursor.skipWord?_eq_some_iff.mp word) clauseRead
    · obtain ⟨⟨clause, final⟩, clauseRead, made⟩ := bind_eq_ok_iff.mp read
      cases made
      exact derives_of_readCriteria clauseRead

theorem Derives.head?_ne_space
    (derives : Derives cursor statement after) :
    cursor.rest.head? ≠ some ' ' := by
  cases derives with
  | ranking word => rw [Cursor.Passes.head?_eq word]; decide
  | fallback word => rw [Cursor.Passes.head?_eq word]; decide
  | header first => exact first.head?_ne_space
  | rule first => exact first.head?_ne_space

/-- Where a criterion begins, no word announces another statement. -/
theorem skipWord?_of_criterion
    {behind : Cursor}
    {token : CriterionToken}
    (derives : CriterionToken.Derives cursor token behind) :
    cursor.skipWord? rankingWord = none ∧ cursor.skipWord? fallbackWord = none := by
  obtain ⟨rest, shape⟩ := List.head?_eq_some_iff.mp derives.head?_eq
  have same : cursor = ⟨cursor.column, token.facet.letter :: rest⟩ := by rw [← shape]
  rw [same]
  exact skipWord?_letter

theorem read_of_criteria
    {behind : Cursor}
    {token : CriterionToken}
    (derives : CriterionToken.Derives cursor token behind)
    (read : readCriteria cursor = .ok (clause, after)) :
    Statement.read cursor = .ok (.clause clause, after) := by
  have noWord := skipWord?_of_criterion derives
  simp only [Statement.read, noWord.1, noWord.2, read, bind, Except.bind, pure, Except.pure]

theorem readRanking_of_deriveAll
    {behindWord colon behindColon here : Cursor}
    {items : List RankingItem}
    (before : behindWord.Spaces colon)
    (sign : colon.Passes [':'] behindColon)
    (spaces : behindColon.Spaces here)
    (lists : RankingItem.DeriveAll here items after)
    (ends : ∀ next ∈ after.nextSign, next = '#') :
    readRanking behindWord = .ok (items, after) := by
  have colonHead : colon.rest.head? ≠ some ' ' := by
    rw [sign.head?_eq]
    decide
  simp only [readRanking, before.skipSpaces_eq_of_head? colonHead,
    Cursor.skip?_eq_some_iff.mpr sign, spaces.skipSpaces_eq_of_head? lists.head?_ne_space,
    RankingItem.readAll_of_deriveAll lists ends]

theorem readFallback_of_derives
    {behindWord here : Cursor}
    {list : PolicyList}
    (spaces : behindWord.Spaces here)
    (policies : PolicyList.Derives here list last)
    (ended : last.skipSpaces.atEnd = true) :
    readFallback behindWord = .ok (.fallback list, last.skipSpaces) := by
  simp only [readFallback, spaces.skipSpaces_eq_of_head? policies.head?_ne_space,
    PolicyList.read?_of_derives policies ended, bind, Except.bind, pure, Except.pure]

section Criteria

variable {behind further : Cursor} {token : CriterionToken} {tokens : List CriterionToken}

/-- Criteria alone are read up to a comment. -/
theorem readCriteria_of_header
    (first : CriterionToken.Derives cursor token behind)
    (others : Repeats (Behind '+' CriterionToken.Derives) behind tokens last)
    (ended : last.skipSpaces.atEnd = true) :
    readCriteria cursor = .ok (.criteria (token :: tokens) none, last.skipSpaces) := by
  have ends := Cursor.nextSign_of_atEnd ended
  have noName : ∀ next ∈ last.nextSign, beginsName next = false := by
    intro next sign
    cases ends next sign
    decide
  have noPlus : last.nextSign ≠ some '+' := fun plus => absurd (ends '+' plus) (by decide)
  have noColon : last.nextSign ≠ some ':' := fun colon => absurd (ends ':' colon) (by decide)
  obtain ⟨firstRead, othersRead⟩ :=
    CriterionToken.read_of_repeats first others noName noPlus .statementExpected
  simp only [readCriteria, firstRead, othersRead, PolicyList.read?_of_head?_ne_colon noColon,
    bind, Except.bind, pure, Except.pure]

/-- Criteria are read up to a colon, and the policies behind it up to a comment. -/
theorem readCriteria_of_rule
    {here : Cursor}
    {list : PolicyList}
    (first : CriterionToken.Derives cursor token behind)
    (others : Repeats (Behind '+' CriterionToken.Derives) behind tokens further)
    (spaces : further.Spaces here)
    (policies : PolicyList.Derives here list last)
    (ended : last.skipSpaces.atEnd = true) :
    readCriteria cursor = .ok (.criteria (token :: tokens) (some list), last.skipSpaces) := by
  have reached := spaces.skipSpaces_eq_of_head? policies.head?_ne_space
  have colon : further.nextSign = some ':' := by
    rw [Cursor.nextSign, reached, policies.head?_eq]
  have noName : ∀ next ∈ further.nextSign, beginsName next = false := by
    intro next sign
    rw [colon] at sign
    cases sign
    decide
  have noPlus : further.nextSign ≠ some '+' := by
    rw [colon]
    decide
  obtain ⟨firstRead, othersRead⟩ :=
    CriterionToken.read_of_repeats first others noName noPlus .statementExpected
  simp only [readCriteria, firstRead, othersRead, reached,
    PolicyList.read?_of_derives policies ended, bind, Except.bind, pure, Except.pure]

end Criteria

/-- A statement is read when only a comment may follow it. -/
theorem read_of_derives
    (derives : Derives cursor statement last)
    (ended : last.skipSpaces.atEnd = true) :
    ∃ after, Statement.read cursor = .ok (statement, after) ∧
      after.skipSpaces = last.skipSpaces := by
  have ends := Cursor.nextSign_of_atEnd ended
  cases derives with
  | ranking word before sign spaces lists =>
      have announced : cursor.skipWord? rankingWord = some _ :=
        Cursor.skipWord?_eq_some_iff.mpr word
      refine ⟨last, ?_, rfl⟩
      simp only [Statement.read, announced,
        readRanking_of_deriveAll before sign spaces lists ends,
        bind, Except.bind, pure, Except.pure]
  | fallback word spaces policies =>
      refine ⟨last.skipSpaces, ?_, Cursor.skipSpaces_eq_self last.head?_skipSpaces⟩
      have noRanking : cursor.skipWord? rankingWord = none :=
        Cursor.skipWord?_eq_none fun behind passes => by
          have begins := passes.head?_eq
          rw [Cursor.Passes.head?_eq word] at begins
          cases begins
      have announced : cursor.skipWord? fallbackWord = some _ :=
        Cursor.skipWord?_eq_some_iff.mpr word
      simp only [Statement.read, noRanking, announced,
        readFallback_of_derives spaces policies ended, bind, Except.bind, pure, Except.pure]
  | header first others =>
      refine ⟨last.skipSpaces, ?_, Cursor.skipSpaces_eq_self last.head?_skipSpaces⟩
      exact read_of_criteria first (readCriteria_of_header first others ended)
  | rule first others spaces policies =>
      refine ⟨last.skipSpaces, ?_, Cursor.skipSpaces_eq_self last.head?_skipSpaces⟩
      exact read_of_criteria first (readCriteria_of_rule first others spaces policies ended)

/-- Exactly the lines of the grammar are read, each as what it derives from. -/
theorem ofLine_eq_ok_iff
    {line : List Char} :
    ofLine line = .ok statement ↔ DerivesLine line statement := by
  constructor
  · intro made
    obtain ⟨⟨stated, after⟩, read, made⟩ := bind_eq_ok_iff.mp made
    dsimp only at made
    split at made
    · rename_i ended
      cases made
      obtain ⟨behind, derives, spaces⟩ := derives_of_read read
      refine .line (Cursor.start line).spaces_skipSpaces derives behind.spaces_skipSpaces ?_
      rw [spaces.skipSpaces_eq]
      exact Cursor.atEnd_iff_exists.mp ended
    · cases made
  · rintro ⟨indent, derives, spaces, ends⟩
    rename_i here behind last
    have ended : behind.skipSpaces.atEnd = true := by
      rw [spaces.skipSpaces_eq_of_head? ?_]
      · exact Cursor.atEnd_iff_exists.mpr ends
      · rcases ends with none | ⟨comment, starts⟩
        · simp [none]
        · simp [starts]
    obtain ⟨after, read, reached⟩ := read_of_derives derives ended
    rw [← indent.skipSpaces_eq_of_head? derives.head?_ne_space] at read
    refine bind_eq_ok_iff.mpr ⟨(statement, after), read, ?_⟩
    dsimp only
    rw [reached, if_pos ended]
    rfl

/-- A line derives one statement at most. -/
theorem DerivesLine.unique
    {line : List Char}
    {first second : Statement}
    (derivesFirst : DerivesLine line first)
    (derivesSecond : DerivesLine line second) :
    first = second := by
  rw [← ofLine_eq_ok_iff] at derivesFirst derivesSecond
  rw [derivesFirst] at derivesSecond
  exact Except.ok.inj derivesSecond

end Statement

end LendingRules
