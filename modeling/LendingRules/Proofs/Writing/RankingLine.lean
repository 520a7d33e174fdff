import LendingRules.Document.Ranking
import LendingRules.Proofs.Reading.Success
import LendingRules.Proofs.Writing.RuleLines

namespace LendingRules

/-!
# Written rankings read back

The ranking line lists the keys of a ranking, and what is read from it stands for
those keys one by one. The precedence in a key names every facet once, so it
passes the checks on letters and comes out as it went in.
-/

theorem isWordCharacter_comma : isWordCharacter ',' = false := by
  decide +kernel

theorem isWordCharacter_parenthesis : isWordCharacter ')' = false := by
  decide +kernel

namespace LetterToken

theorem skipSeparator?_comma
    (column : Nat)
    {rest : List Char}
    (present : rest.head? ≠ some ' ') :
    skipSeparator? ⟨column, ',' :: ' ' :: rest⟩ = some ⟨column + 2, rest⟩ := by
  have comma : (',' :: ' ' :: rest).head? ≠ some ' ' := by simp
  simp only [skipSeparator?, Cursor.skipSpaces_of_head? comma, Cursor.skip?_cons,
    Cursor.skipSpaces_space, Cursor.skipSpaces_of_head? present]

theorem skipSeparator?_parenthesis (column : Nat) (rest : List Char) :
    skipSeparator? ⟨column, ')' :: rest⟩ = none := by
  have parenthesis : (')' :: rest).head? ≠ some ' ' := by simp
  have notComma : (')' :: rest).head? ≠ some ',' := by simp
  simp only [skipSeparator?, Cursor.skipSpaces_of_head? parenthesis,
    Cursor.skip?_of_head? notComma, Cursor.skip?_of_head? parenthesis, Option.map_none]

/-- The written form of letters behind the first, each behind a comma. -/
def furtherCharacters (facets : List Facet) : List Char :=
  facets.flatMap fun facet => [',', ' ', facet.letter]

theorem alone_furtherCharacters (facets : List Facet) (rest : List Char) :
    (furtherCharacters facets ++ ')' :: rest).head?.any isWordCharacter = false := by
  cases facets with
  | nil => exact isWordCharacter_parenthesis
  | cons facet others => exact isWordCharacter_comma

/-- Written letters are read up to the closing parenthesis. -/
theorem readMore_letters
    (column : Nat)
    (facets : List Facet)
    (rest : List Char) :
    ∃ tokens final,
      readMore ⟨column, furtherCharacters facets ++ ')' :: rest⟩ =
          (tokens, ⟨final, ')' :: rest⟩) ∧
        tokens.map LetterToken.facet = facets := by
  induction facets generalizing column with
  | nil =>
      exact ⟨[], column, readMore_of_none (skipSeparator?_parenthesis column rest), rfl⟩
  | cons facet others inductionHypothesis =>
      have present :
          (facet.letter :: (furtherCharacters others ++ ')' :: rest)).head? ≠ some ' ' := by
        simpa using facet.letter_ne_space
      have shape :
          furtherCharacters (facet :: others) ++ ')' :: rest =
            ',' :: ' ' :: facet.letter :: (furtherCharacters others ++ ')' :: rest) := by
        simp [furtherCharacters]
      obtain ⟨tokens, final, moreRead, moreFacets⟩ := inductionHypothesis (column + 2 + 1)
      refine ⟨⟨facet, column + 2⟩ :: tokens, final, ?_, by simp [moreFacets]⟩
      rw [shape, readMore_of_ok (skipSeparator?_comma column present)
        (read_letter (alone_furtherCharacters others rest)), moreRead]

end LetterToken

namespace Precedence

theorem facets_ne_nil (precedence : Precedence) : precedence.facets ≠ [] :=
  List.ne_nil_of_mem (precedence.mem_facets .loanType)

theorem toList_text
    {precedence : Precedence}
    {first : Facet}
    {others : List Facet}
    (shape : precedence.facets = first :: others) :
    precedence.text.toList = first.letter :: LetterToken.furtherCharacters others := by
  have separator : ", ".toList = [',', ' '] := rfl
  simp only [text, shape, String.toList_intercalate, List.map_cons, List.map_map,
    intercalate_cons_eq_append_flatMap, separator, List.flatMap_map]
  simp [LetterToken.furtherCharacters]

theorem unbroken_text (precedence : Precedence) : Unbroken precedence.text.toList := by
  obtain ⟨first, others, shape⟩ := List.exists_cons_of_ne_nil precedence.facets_ne_nil
  have further : Unbroken (LetterToken.furtherCharacters others) := by
    apply Unbroken.flatMap
    intro facet _
    exact .cons (by decide) (.space (.cons facet.isBlank_letter (.of_unblank (by simp))))
  rw [toList_text shape]
  exact .cons first.isBlank_letter further

end Precedence

namespace LetterList

/-- A written precedence is read as a list of its facets. -/
theorem readParenthesized_text
    (column : Nat)
    (precedence : Precedence)
    (rest : List Char) :
    ∃ list final,
      readParenthesized ⟨column, '(' :: (precedence.text.toList ++ ')' :: rest)⟩ =
          .ok (list, ⟨final, rest⟩) ∧
        list.letters.map LetterToken.facet = precedence.facets := by
  obtain ⟨first, others, shape⟩ := List.exists_cons_of_ne_nil precedence.facets_ne_nil
  obtain ⟨tokens, final, moreRead, moreFacets⟩ :=
    LetterToken.readMore_letters (column + 1 + 1) others rest
  have opened :
      ('(' :: first.letter :: (LetterToken.furtherCharacters others ++
        ')' :: rest)).head? ≠ some ' ' := by
    simp
  have begins :
      (first.letter :: (LetterToken.furtherCharacters others ++
        ')' :: rest)).head? ≠ some ' ' := by
    simpa using first.letter_ne_space
  have closed : (')' :: rest).head? ≠ some ' ' := by simp
  have read :
      LetterList.read ⟨column + 1, first.letter ::
          (LetterToken.furtherCharacters others ++ ')' :: rest)⟩ =
        (⟨column + 1, ⟨first, column + 1⟩ :: tokens⟩, ⟨final, ')' :: rest⟩) := by
    simp only [LetterList.read,
      LetterToken.read_letter (LetterToken.alone_furtherCharacters others rest), moreRead]
  refine ⟨⟨column + 1, ⟨first, column + 1⟩ :: tokens⟩, final + 1, ?_, ?_⟩
  · simp only [Precedence.toList_text shape, List.cons_append, readParenthesized,
      Cursor.skipSpaces_of_head? opened, Cursor.skip?_cons,
      Cursor.skipSpaces_of_head? begins, read, Cursor.skipSpaces_of_head? closed]
  · rw [shape, List.map_cons, moreFacets]

/-- The facets of a precedence pass the checks on a list of letters. -/
theorem precedence_of_facets
    {list : LetterList}
    {order : Precedence}
    (facets : list.letters.map LetterToken.facet = order.facets)
    (line : Nat) :
    list.precedence line = .ok order := by
  have length : list.letters.length = Facet.all.length := by
    rw [← order.length_facets, ← facets, List.length_map]
  have distinct : firstRepeat? LetterToken.facet list.letters = none := by
    rw [firstRepeat?_eq_none_iff, facets]
    exact order.nodup
  have listed : Precedence.ofList? order.facets = some order :=
    Precedence.ofList?_eq_some_iff.mpr rfl
  simp only [precedence, length, Nat.lt_irrefl, ↓reduceIte, distinct, facets, listed]

end LetterList

namespace RankingKey

theorem head?_text (key : RankingKey) (rest : List Char) :
    (key.text.toList ++ rest).head? ≠ some ' ' := by
  cases key with
  | criteriaCount => exact fun space => by cases space
  | precedence order =>
      rw [text, String.toList_append, String.toList_append]
      exact fun space => by cases space
  | line preference =>
      cases preference <;> exact fun space => by cases space

theorem unbroken_text (key : RankingKey) : Unbroken key.text.toList := by
  cases key with
  | criteriaCount => exact .of_all (by decide)
  | precedence order =>
      have opening : Unbroken "criterium(".toList := .of_all (by decide)
      have closing : Unbroken ")".toList := .of_all (by decide)
      rw [text, String.toList_append, String.toList_append]
      exact (opening.append order.unbroken_text).append closing
  | line preference =>
      cases preference with
      | firstLine => exact .of_all (by decide)
      | lastLine => exact .of_all (by decide)

end RankingKey

namespace RankingItem

/-- Whether an item is a key in its own right, and which one. -/
structure StandsFor (item : RankingItem) (key : RankingKey) : Prop where
  notBare : ∀ list, item.kind ≠ .letters list
  key_eq : ∀ line, item.key line = .ok key

/-- A written key is read as an item that stands for it. -/
theorem read?_text
    (column : Nat)
    (key : RankingKey)
    (rest : List Char) :
    ∃ item final,
      read? ⟨column, key.text.toList ++ rest⟩ = .ok (some (item, ⟨final, rest⟩)) ∧
        item.StandsFor key := by
  cases key with
  | criteriaCount =>
      exact ⟨⟨column, .criteriaCount⟩, _, rfl, by simp, fun _ => rfl⟩
  | line preference =>
      cases preference with
      | firstLine => exact ⟨⟨column, .line .firstLine⟩, _, rfl, by simp, fun _ => rfl⟩
      | lastLine => exact ⟨⟨column, .line .lastLine⟩, _, rfl, by simp, fun _ => rfl⟩
  | precedence order =>
      obtain ⟨list, final, listRead, facets⟩ :=
        LetterList.readParenthesized_text (column + precedenceWord.length) order rest
      have shape :
          (RankingKey.precedence order).text.toList ++ rest =
            precedenceWord ++ '(' :: (order.text.toList ++ ')' :: rest) := by
        have opening : "criterium(".toList = precedenceWord ++ ['('] := rfl
        have closing : ")".toList = [')'] := rfl
        simp only [RankingKey.text, String.toList_append, opening, closing,
          List.append_assoc, List.cons_append, List.nil_append]
      have notPlain :
          readPlain? ⟨column, precedenceWord ++ '(' :: (order.text.toList ++ ')' :: rest)⟩ =
            none := rfl
      refine ⟨⟨column, .precedence list⟩, final, ?_, by simp, ?_⟩
      · simp only [read?, shape, notPlain, Cursor.skipWord?_append, listRead]
      · intro line
        simp only [RankingItem.key, LetterList.precedence_of_facets facets, Functor.map,
          Except.map]

/-- The written form of keys behind the first, each behind a comma. -/
def furtherCharacters (keys : List RankingKey) : List Char :=
  keys.flatMap fun key => ',' :: ' ' :: key.text.toList

/-- Written keys are read up to the end of the line. -/
theorem readMore_texts
    (column : Nat)
    (keys : List RankingKey) :
    ∃ items final,
      readMore ⟨column, furtherCharacters keys⟩ = .ok (items, ⟨final, []⟩) ∧
        List.Forall₂ StandsFor items keys := by
  induction keys generalizing column with
  | nil => exact ⟨[], column, readMore_of_none rfl, .nil⟩
  | cons key others inductionHypothesis =>
      have shape :
          furtherCharacters (key :: others) =
            ',' :: ' ' :: (key.text.toList ++ furtherCharacters others) := by
        simp [furtherCharacters]
      have comma :
          (',' :: ' ' :: (key.text.toList ++ furtherCharacters others)).head? ≠
            some ' ' := by
        simp
      obtain ⟨item, behind, read, stands⟩ :=
        read?_text (column + 1 + 1) key (furtherCharacters others)
      obtain ⟨items, final, moreRead, moreStand⟩ := inductionHypothesis behind
      have skipped :
          Cursor.skipSpaces ⟨column + 1, ' ' :: (key.text.toList ++ furtherCharacters others)⟩ =
            ⟨column + 1 + 1, key.text.toList ++ furtherCharacters others⟩ := by
        rw [Cursor.skipSpaces_space, Cursor.skipSpaces_of_head? (key.head?_text _)]
      refine ⟨item :: items, final, ?_, .cons stands moreStand⟩
      rw [shape]
      refine readMore_of_ok ?_ (skipped ▸ read) moreRead
      rw [Cursor.skipSpaces_of_head? comma, Cursor.skip?_cons]

/-- Keys that the items stand for are the keys that the items declare. -/
theorem keysAfter_eq
    {items : List RankingItem}
    {keys declared : List RankingKey}
    {line : Nat}
    {seen : List RankingKeyKind}
    (stand : List.Forall₂ StandsFor items keys)
    (accepted : keysAfter line seen items = .ok declared) :
    declared = keys := by
  induction stand generalizing seen declared with
  | nil => exact (Except.ok.inj accepted).symm
  | cons stands rest inductionHypothesis =>
      obtain ⟨key, keyMade, accepted⟩ := bind_eq_ok_iff.mp accepted
      rw [stands.key_eq] at keyMade
      cases keyMade
      split at accepted
      · cases accepted
      · split at accepted
        · cases accepted
        · obtain ⟨others, othersMade, same⟩ := bind_eq_ok_iff.mp accepted
          cases same
          rw [inductionHypothesis othersMade]

end RankingItem

namespace Ranking

/-- A ranking is made from its own keys. -/
theorem ofKeys_keys (ranking : Ranking) : ofKeys ranking.keys = ranking := by
  simp [ofKeys, keys]

theorem toList_text
    {ranking : Ranking}
    {first : RankingKey}
    {others : List RankingKey}
    (shape : ranking.keys = first :: others) :
    ranking.text.toList = first.text.toList ++ RankingItem.furtherCharacters others := by
  have separator : ", ".toList = [',', ' '] := rfl
  simp only [text, shape, String.toList_intercalate, List.map_cons,
    intercalate_cons_eq_append_flatMap, separator, List.flatMap_map]
  rfl

theorem keys_ne_nil (ranking : Ranking) : ranking.keys ≠ [] := by
  simp [keys]

/-- The line that declares the ranking. -/
def lineCharacters (ranking : Ranking) : List Char :=
  Statement.rankingWord ++ ':' :: ' ' :: ranking.text.toList

theorem isPlain_lineCharacters (ranking : Ranking) : IsPlain ranking.lineCharacters := by
  obtain ⟨first, others, shape⟩ := List.exists_cons_of_ne_nil ranking.keys_ne_nil
  have word : Unbroken Statement.rankingWord := .of_all (by decide)
  have further : Unbroken (RankingItem.furtherCharacters others) := by
    apply Unbroken.flatMap
    intro key member
    exact .cons (by decide) (.space key.unbroken_text)
  refine ⟨?_, 'p', rfl, by decide⟩
  rw [lineCharacters, toList_text shape]
  exact word.append (.cons (by decide) (.space (first.unbroken_text.append further)))

/-- The written line of a ranking states items that stand for its keys. -/
theorem ofLine_lineCharacters (ranking : Ranking) :
    ∃ items, Statement.ofLine ranking.lineCharacters = .ok (.ranking items) ∧
      List.Forall₂ RankingItem.StandsFor items ranking.keys := by
  obtain ⟨first, others, shape⟩ := List.exists_cons_of_ne_nil ranking.keys_ne_nil
  have text := toList_text shape
  have colon : (':' :: ' ' :: ranking.text.toList).head? ≠ some ' ' := by simp
  have space :
      Cursor.skipSpaces ⟨1 + Statement.rankingWord.length + 1, ' ' :: ranking.text.toList⟩ =
        ⟨1 + Statement.rankingWord.length + 1 + 1, ranking.text.toList⟩ := by
    rw [Cursor.skipSpaces_space, text, Cursor.skipSpaces_of_head? (first.head?_text _)]
  obtain ⟨item, behind, read, stands⟩ :=
    RankingItem.read?_text (1 + Statement.rankingWord.length + 1 + 1) first
      (RankingItem.furtherCharacters others)
  obtain ⟨items, final, moreRead, moreStand⟩ := RankingItem.readMore_texts behind others
  rw [← text] at read
  have statement :
      Statement.read ⟨1, ranking.lineCharacters⟩ =
        .ok (.ranking (item :: items), ⟨final, []⟩) := by
    simp only [Statement.read, lineCharacters, Cursor.skipWord?_append, readRanking,
      Cursor.skipSpaces_of_head? colon, Cursor.skip?_cons, space, RankingItem.readAll,
      read, moreRead, bind, Except.bind, pure, Except.pure]
  refine ⟨item :: items, ?_, shape ▸ .cons stands moreStand⟩
  exact Statement.ofLine_of_read ranking.isPlain_lineCharacters statement

end Ranking

namespace Document

/-- A document whose items stand for the keys of a ranking declares that ranking. -/
theorem ranking_eq
    {document : Document}
    {written declared : Ranking}
    (stand : List.Forall₂ RankingItem.StandsFor document.rankingItems written.keys)
    (accepted : document.ranking = .ok declared) :
    declared = written := by
  unfold Document.ranking at accepted
  split at accepted
  · rename_i column list bare
    rw [bare] at stand
    obtain ⟨key, keys, stands, -, -⟩ := List.forall₂_cons_left_iff.mp stand
    exact absurd rfl (stands.notBare list)
  · obtain ⟨keys, made, rfl⟩ := map_eq_ok_iff.mp accepted
    rw [RankingItem.keysAfter_eq stand made, written.ofKeys_keys]

end Document

end LendingRules
