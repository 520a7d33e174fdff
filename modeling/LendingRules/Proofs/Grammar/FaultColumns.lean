import LendingRules.Proofs.Grammar.Positions

namespace LendingRules

/-!
# Readers fail where they stand

A reader that fails blames a column at which some cursor stands that it has
reached. So whatever is wrong with the form of a line is blamed on one of its
characters, or on its end.
-/

namespace Cursor

variable {cursor here after : Cursor} {column : Nat} {word : List Char}

/-- A column that is reached from the cursor by moving over characters. -/
def Sees (cursor : Cursor) (column : Nat) : Prop :=
  ∃ here, cursor.Reaches here ∧ here.column = column

theorem Reaches.sees (reaches : cursor.Reaches here) : cursor.Sees here.column :=
  ⟨here, reaches, rfl⟩

theorem sees_self (cursor : Cursor) : cursor.Sees cursor.column :=
  (Reaches.refl cursor).sees

/-- What is seen from further on is seen from here. -/
theorem Reaches.sees_of_sees
    (reaches : cursor.Reaches here)
    (sees : here.Sees column) :
    cursor.Sees column := by
  obtain ⟨there, further, same⟩ := sees
  exact ⟨there, reaches.trans further, same⟩

/-- The columns of a line are those of its characters, and one behind them. -/
theorem sees_start
    {line : List Char}
    (sees : (Cursor.start line).Sees column) :
    1 ≤ column ∧ column ≤ line.length + 1 := by
  obtain ⟨here, reaches, rfl⟩ := sees
  have begins := reaches.column_le
  have size := reaches.length_add_column
  simp only [Cursor.start] at begins size
  omega

end Cursor

variable {cursor after : Cursor} {fault : LendingRules.Fault} {column : Nat}

theorem LetterToken.sees_of_read
    (failed : LetterToken.read cursor = .error column) :
    cursor.Sees column := by
  unfold LetterToken.read at failed
  split at failed
  · cases failed
    exact cursor.sees_self
  · rename_i letter rest shape
    split at failed
    · cases failed
      exact cursor.sees_self
    · split at failed
      · cases failed
        -- The letter is part of a word: the fault lies behind it.
        have behind : cursor.Reaches ⟨cursor.column + 1, rest⟩ := ⟨[letter], by simp [shape], rfl⟩
        exact behind.sees
      · cases failed

theorem NameToken.sees_of_read
    (failed : NameToken.read cursor = .error column) :
    cursor.Sees column := by
  unfold NameToken.read at failed
  split at failed
  · cases failed
    exact cursor.sees_self
  · rename_i spaced skipped
    dsimp only at failed
    split at failed
    · cases failed
      exact ((Cursor.reaches_of_skip? skipped).1.trans spaced.reaches_skipSpaces).sees
    · cases failed

namespace CriterionToken

theorem sees_of_read
    {problem : SyntaxProblem}
    (failed : CriterionToken.read problem cursor = .error fault) :
    cursor.Sees fault.column := by
  unfold CriterionToken.read at failed
  split at failed
  · rename_i column unread
    cases failed
    exact LetterToken.sees_of_read unread
  · rename_i letter behindLetter letterRead
    split at failed
    · rename_i column unread
      cases failed
      exact (LetterToken.reaches_of_read letterRead).1.sees_of_sees (NameToken.sees_of_read unread)
    · cases failed

theorem sees_of_readMore
    (failed : readMore cursor = .error fault) :
    cursor.Sees fault.column := by
  fun_induction readMore cursor with
  | case1 => cases failed
  | case2 cursor here skipped other unread =>
      cases failed
      exact (reaches_of_skipPlus? skipped).sees_of_sees (sees_of_read unread)
  | case3 cursor here skipped token behind tokenRead shorter other unread inductionHypothesis =>
      cases failed
      have reached := (reaches_of_skipPlus? skipped).trans (reaches_of_read tokenRead).1
      exact reached.sees_of_sees (inductionHypothesis unread)
  | case4 => cases failed

theorem reaches_of_readMore
    {tokens : List CriterionToken}
    (read : readMore cursor = .ok (tokens, after)) :
    cursor.Reaches after :=
  ((repeats_of_readMore read).marks CriterionToken.marks
    fun phrase => phrase.marks _ CriterionToken.Derives.marks).reaches

end CriterionToken

theorem PolicyToken.sees_of_read
    (failed : PolicyToken.read cursor = .error fault) :
    cursor.Sees fault.column := by
  unfold PolicyToken.read at failed
  dsimp only at failed
  split at failed
  · cases failed
    exact cursor.sees_self
  · split at failed
    · cases failed
      exact ((cursor.reaches_span _).trans (Cursor.reaches_skipSpaces _)).sees
    · cases failed

namespace PolicyList

theorem sees_of_readTokens
    (failed : readTokens cursor = .error fault) :
    cursor.Sees fault.column := by
  fun_induction readTokens cursor with
  | case1 => cases failed
  | case2 cursor here goesOn other unread =>
      cases failed
      exact cursor.reaches_skipSpaces.sees_of_sees (PolicyToken.sees_of_read unread)
  | case3 cursor here goesOn token behind tokenRead shorter other unread inductionHypothesis =>
      cases failed
      have reached := cursor.reaches_skipSpaces.trans (PolicyToken.reaches_of_read tokenRead).1
      exact reached.sees_of_sees (inductionHypothesis unread)
  | case4 => cases failed

theorem sees_of_read?
    (failed : read? cursor = .error fault) :
    cursor.Sees fault.column := by
  unfold read? at failed
  split at failed
  · cases failed
  · rename_i behind colon
    split at failed
    · rename_i other unread
      cases failed
      exact (Cursor.reaches_of_skip? colon).1.sees_of_sees (sees_of_readTokens unread)
    · cases failed

end PolicyList

theorem LetterList.sees_of_readParenthesized
    (failed : readParenthesized cursor = .error fault) :
    cursor.Sees fault.column := by
  unfold readParenthesized at failed
  dsimp only at failed
  split at failed
  · cases failed
    exact cursor.reaches_skipSpaces.sees
  · rename_i opened opens
    split at failed
    · cases failed
      have begins := cursor.reaches_skipSpaces.trans (Cursor.reaches_of_skip? opens).1
      have listed := opened.reaches_skipSpaces.trans (LetterList.reaches_read opened.skipSpaces)
      exact ((begins.trans listed).trans (Cursor.reaches_skipSpaces _)).sees
    · cases failed

namespace RankingItem

theorem sees_of_read?
    (failed : read? cursor = .error fault) :
    cursor.Sees fault.column := by
  unfold read? at failed
  split at failed
  · cases failed
  · split at failed
    · cases failed
    · rename_i behindWord word
      split at failed
      · rename_i other unread
        cases failed
        exact (Cursor.reaches_of_skipWord? word).sees_of_sees
          (LetterList.sees_of_readParenthesized unread)
      · cases failed

theorem sees_of_readMore
    (failed : readMore cursor = .error fault) :
    cursor.Sees fault.column := by
  fun_induction readMore cursor with
  | case1 => cases failed
  | case2 cursor passed comma other unread =>
      cases failed
      have reached := cursor.reaches_skipSpaces.trans (Cursor.reaches_of_skip? comma).1
      exact (reached.trans passed.reaches_skipSpaces).sees_of_sees (sees_of_read? unread)
  | case3 => cases failed
  | case4 cursor passed comma item behind itemRead shorter other unread inductionHypothesis =>
      cases failed
      have reached := cursor.reaches_skipSpaces.trans (Cursor.reaches_of_skip? comma).1
      have key := passed.reaches_skipSpaces.trans (reaches_of_read? itemRead)
      exact (reached.trans key).sees_of_sees (inductionHypothesis unread)
  | case5 => cases failed

theorem sees_of_readAll
    (failed : readAll cursor = .error fault) :
    cursor.Sees fault.column := by
  unfold readAll at failed
  split at failed
  · rename_i other unread
    cases failed
    exact sees_of_read? unread
  · cases failed
  · rename_i item behind itemRead
    split at failed
    · rename_i other unread
      cases failed
      exact (reaches_of_read? itemRead).sees_of_sees (sees_of_readMore unread)
    · cases failed

end RankingItem

theorem sees_of_readRanking
    (failed : readRanking cursor = .error fault) :
    cursor.Sees fault.column := by
  unfold readRanking at failed
  dsimp only at failed
  split at failed
  · cases failed
    exact cursor.reaches_skipSpaces.sees
  · rename_i behindColon colon
    have reached := cursor.reaches_skipSpaces.trans (Cursor.reaches_of_skip? colon).1
    exact (reached.trans behindColon.reaches_skipSpaces).sees_of_sees
      (RankingItem.sees_of_readAll failed)

theorem sees_of_readCriteria
    (failed : readCriteria cursor = .error fault) :
    cursor.Sees fault.column := by
  rcases bind_eq_error_iff.mp failed with unread | ⟨⟨first, behindFirst⟩, firstRead, failed⟩
  · exact CriterionToken.sees_of_read unread
  · have behind := (CriterionToken.reaches_of_read firstRead).1
    rcases bind_eq_error_iff.mp failed with unread | ⟨⟨others, further⟩, othersRead, failed⟩
    · exact behind.sees_of_sees (CriterionToken.sees_of_readMore unread)
    · have reached := behind.trans (CriterionToken.reaches_of_readMore othersRead)
      rcases bind_eq_error_iff.mp failed with unread | ⟨list?, -, made⟩
      · exact (reached.trans further.reaches_skipSpaces).sees_of_sees
          (PolicyList.sees_of_read? unread)
      · split at made <;> cases made

namespace Statement

theorem sees_of_readFallback
    (failed : readFallback cursor = .error fault) :
    cursor.Sees fault.column := by
  rcases bind_eq_error_iff.mp failed with unread | ⟨list?, -, failed⟩
  · exact cursor.reaches_skipSpaces.sees_of_sees (PolicyList.sees_of_read? unread)
  · split at failed
    · cases failed
      exact cursor.reaches_skipSpaces.sees
    · cases failed

theorem sees_of_read
    (failed : Statement.read cursor = .error fault) :
    cursor.Sees fault.column := by
  unfold Statement.read at failed
  split at failed
  · rename_i behindWord word
    rcases bind_eq_error_iff.mp failed with unread | ⟨_, -, made⟩
    · exact (Cursor.reaches_of_skipWord? word).sees_of_sees (sees_of_readRanking unread)
    · cases made
  · dsimp only at failed
    split at failed
    · rename_i behindWord word
      rcases bind_eq_error_iff.mp failed with unread | ⟨_, -, made⟩
      · exact (Cursor.reaches_of_skipWord? word).sees_of_sees (sees_of_readFallback unread)
      · cases made
    · rcases bind_eq_error_iff.mp failed with unread | ⟨_, -, made⟩
      · exact sees_of_readCriteria unread
      · cases made

/-- What is wrong with a line is blamed on one of its characters, or on its end. -/
theorem sees_of_ofLine
    {line : List Char}
    (failed : ofLine line = .error fault) :
    (Cursor.start line).Sees fault.column := by
  have begins := (Cursor.start line).reaches_skipSpaces
  rcases bind_eq_error_iff.mp failed with unread | ⟨⟨statement, behind⟩, read, failed⟩
  · exact begins.sees_of_sees (sees_of_read unread)
  · dsimp only at failed
    split at failed
    · cases failed
    · cases failed
      obtain ⟨last, derives, spaces⟩ := derives_of_read read
      have stated := derives.marks.reaches.trans spaces.reaches
      exact ((begins.trans stated).trans behind.reaches_skipSpaces).sees

/-- The blamed column is that of a byte of the line, in front of which some cursor stands. -/
theorem exists_columnAt_of_ofLine
    {line : List Char}
    (failed : ofLine line = .error fault) :
    ∃ here,
      (Cursor.start line).Reaches here ∧
        columnAt (utf8Bytes line) (here.offsetIn line) = fault.column := by
  obtain ⟨here, reaches, column⟩ := sees_of_ofLine failed
  exact ⟨here, reaches, reaches.columnAt_offsetIn.trans column⟩

end Statement

end LendingRules
