import LendingRules.Draft.Writable
import LendingRules.Proofs.Reading.LineMeaning
import LendingRules.Proofs.Writing.Names
import LendingRules.Proofs.Writing.PlainLines

namespace LendingRules

/-!
# Written criteria read back

An id that is fit for writing is read as one name. It is not cut short, since it
holds no blank and no colon, and it is neither negated nor taken for another
token, since it does not begin with the character of one. What is read from a
written criterion therefore means that criterion.
-/

/-- Pieces with a separator between them are the first, and the others behind one. -/
theorem intercalate_cons_eq_append_flatMap
    {Element : Type}
    (separator first : List Element)
    (others : List (List Element)) :
    separator.intercalate (first :: others) =
      first ++ others.flatMap fun other => separator ++ other := by
  induction others generalizing first with
  | nil => simp
  | cons next rest inductionHypothesis =>
      have step :
          separator.intercalate (first :: next :: rest) =
            first ++ separator ++ separator.intercalate (next :: rest) := by
        simp [List.intercalate]
      rw [step, inductionHypothesis]
      simp

theorem clean_of_isWritableId
    {reserved : List Char}
    {id : String}
    (writable : isWritableId reserved id = true) :
    ∀ character ∈ id.toList, isBlank character = false ∧ character ≠ ':' := by
  unfold isWritableId at writable
  cases shape : id.toList with
  | nil => simp
  | cons first others =>
      simp only [shape, Bool.and_eq_true, List.all_eq_true, Bool.not_eq_true',
        decide_eq_true_eq] at writable
      exact writable.2

theorem Unbroken.of_isWritableId
    {reserved : List Char}
    {id : String}
    (writable : isWritableId reserved id = true) :
    Unbroken id.toList :=
  .of_unblank fun character member => (clean_of_isWritableId writable character member).1

theorem head?_ne_of_isWritableId
    {reserved : List Char}
    {id : String}
    {character : Char}
    (listed : character ∈ reserved)
    (writable : isWritableId reserved id = true) :
    id.toList.head? ≠ some character := by
  unfold isWritableId at writable
  cases shape : id.toList with
  | nil => simp
  | cons first others =>
      simp only [shape, Bool.and_eq_true, Bool.not_eq_true', List.contains_eq_mem,
        decide_eq_false_iff_not] at writable
      intro same
      cases (Option.some.inj same : first = character)
      exact writable.1 listed

theorem isName_of_isWritableId
    {reserved : List Char}
    {id : String}
    (plus : '+' ∈ reserved)
    (hash : '#' ∈ reserved)
    (writable : isWritableId reserved id = true) :
    IsName id.toList := by
  have clean := clean_of_isWritableId writable
  have notPlus := head?_ne_of_isWritableId plus writable
  have notHash := head?_ne_of_isWritableId hash writable
  have notSpace : ∀ character ∈ id.toList, character ≠ ' ' := by
    intro character member same
    subst same
    have unblank := (clean ' ' member).1
    cases unblank
  cases shape : id.toList with
  | nil => simp [isWritableId, shape] at writable
  | cons first others =>
      rw [shape] at clean notSpace notPlus notHash
      refine ⟨?_, ?_⟩
      · have plusApart : first ≠ '+' := fun same => notPlus (congrArg some same)
        have hashApart : first ≠ '#' := fun same => notHash (congrArg some same)
        simp [beginsName, notSpace first (by simp), (clean first (by simp)).2, plusApart,
          hashApart]
      · intro character member
        have behind : character ∈ first :: others := List.mem_cons_of_mem _ member
        simp [continuesName, notSpace character behind, (clean character behind).2]

namespace NameToken

theorem saidBy_plain
    {id : String}
    (plain : id.toList.head? ≠ some '!') :
    saidBy id.toList = (id, false) := by
  unfold saidBy ofCharacters said
  split
  · rename_i name shape
    simp [shape] at plain
  · simp

theorem saidBy_negated (id : String) : saidBy ('!' :: id.toList) = (id, true) := by
  simp [saidBy, ofCharacters, said]

end NameToken

namespace IdTest

/-- The test that names stand for, given what they say. -/
def ofSaid (names : List (String × Bool)) : IdTest :=
  match names with
  | [("all", false)] => .anyId
  | names =>
      let ids := names.map Prod.fst
      if names.any Prod.snd then .noneOf ids else .oneOf ids

theorem ofSaid_of_not_lone_all
    {names : List (String × Bool)}
    (notLone : names ≠ [("all", false)]) :
    ofSaid names =
      if names.any Prod.snd then .noneOf (names.map Prod.fst)
      else .oneOf (names.map Prod.fst) := by
  unfold ofSaid
  split
  · exact absurd rfl notLone
  · rfl

/-- The words of a test as lists of characters. -/
def wordCharacters (test : IdTest) : List (List Char) :=
  test.words.map String.toList

/-- A test that is written in unbroken names, all alike, that stand for it. -/
structure ReadsBack (test : IdTest) : Prop where
  names : ∀ word ∈ test.wordCharacters, IsName word
  unbroken : ∀ word ∈ test.wordCharacters, Unbroken word
  present : test.wordCharacters ≠ []
  alike : ∃ negated, ∀ said ∈ test.wordCharacters.map NameToken.saidBy, said.2 = negated
  means : ofSaid (test.wordCharacters.map NameToken.saidBy) = test

theorem readsBack_anyId : ReadsBack .anyId := by
  have only : ∀ word ∈ anyId.wordCharacters, word = "all".toList := by
    intro word member
    simpa [wordCharacters, words] using member
  have writable : isWritableId ['+', '#'] "all" = true := by decide
  refine ⟨?_, ?_, by simp [wordCharacters, words], ⟨false, by decide⟩, by decide⟩
  · intro word member
    rw [only word member]
    exact isName_of_isWritableId (by decide) (by decide) writable
  · intro word member
    rw [only word member]
    exact .of_isWritableId writable

theorem readsBack_oneOf
    {ids : List String}
    (present : ids ≠ [])
    (notLone : ids ≠ ["all"])
    (writable : ∀ id ∈ ids, isWritableId ['+', '#', '!'] id = true) :
    ReadsBack (.oneOf ids) := by
  have said : (IdTest.oneOf ids).wordCharacters.map NameToken.saidBy =
      ids.map fun id => (id, false) := by
    simp only [wordCharacters, words, List.map_map]
    refine List.map_congr_left fun id member => ?_
    exact NameToken.saidBy_plain
      (head?_ne_of_isWritableId (by decide : '!' ∈ ['+', '#', '!']) (writable id member))
  have apart : (ids.map fun id => (id, false)) ≠ [("all", false)] := by
    intro same
    apply notLone
    have ids := congrArg (List.map Prod.fst) same
    simpa [List.map_map, Function.comp_def] using ids
  refine ⟨?_, ?_, by simpa [wordCharacters, words] using present, ⟨false, ?_⟩, ?_⟩
  · intro word member
    obtain ⟨id, idMember, rfl⟩ := List.mem_map.mp member
    exact isName_of_isWritableId (by decide) (by decide) (writable id idMember)
  · intro word member
    obtain ⟨id, idMember, rfl⟩ := List.mem_map.mp member
    exact .of_isWritableId (writable id idMember)
  · rw [said]
    simp
  · rw [said, ofSaid_of_not_lone_all apart]
    simp [List.map_map, Function.comp_def]

theorem readsBack_noneOf
    {ids : List String}
    (present : ids ≠ [])
    (writable : ∀ id ∈ ids, isWritableId ['+', '#', '!'] id = true) :
    ReadsBack (.noneOf ids) := by
  have shape : (IdTest.noneOf ids).wordCharacters = ids.map fun id => '!' :: id.toList := by
    simp [wordCharacters, words, List.map_map, Function.comp_def]
  have said : (IdTest.noneOf ids).wordCharacters.map NameToken.saidBy =
      ids.map fun id => (id, true) := by
    rw [shape, List.map_map]
    exact List.map_congr_left fun id _ => NameToken.saidBy_negated id
  refine ⟨?_, ?_, by simpa [shape] using present, ⟨true, ?_⟩, ?_⟩
  · intro word member
    rw [shape] at member
    obtain ⟨id, idMember, rfl⟩ := List.mem_map.mp member
    have isName : IsName id.toList :=
      isName_of_isWritableId (by decide) (by decide) (writable id idMember)
    refine ⟨by decide, ?_⟩
    intro character characterMember
    exact isName.continues character characterMember
  · intro word member
    rw [shape] at member
    obtain ⟨id, idMember, rfl⟩ := List.mem_map.mp member
    exact .cons (by decide) (.of_isWritableId (writable id idMember))
  · rw [said]
    simp
  · cases ids with
    | nil => exact absurd rfl present
    | cons id others =>
        have apart : ((id :: others).map fun id => (id, true)) ≠ [("all", false)] := by
          simp
        rw [said, ofSaid_of_not_lone_all apart]
        simp [List.map_map, Function.comp_def]

/-- A test without unwritable id lists writable ids, and at least one. -/
theorem listed_of_unwritableId?
    {test : IdTest}
    {ids : List String}
    (lists : test = .oneOf ids ∨ test = .noneOf ids)
    (writable : test.unwritableId? = none) :
    ids ≠ [] ∧ ∀ id ∈ ids, isWritableId ['+', '#', '!'] id = true := by
  constructor
  · intro nothing
    rcases lists with same | same
    all_goals
      rw [same, nothing] at writable
      cases writable
  · have unfound :
        ids.find? (fun id => !isWritableId ['+', '#', '!'] id) = none := by
      rcases lists with same | same
      all_goals
        subst same
        unfold unwritableId? at writable
        split at writable <;> simp_all
    simpa using unfound

/-- Nothing unwritable in a test means that it reads back. -/
theorem readsBack_of_unwritableId?
    {test : IdTest}
    (writable : test.unwritableId? = none) :
    test.ReadsBack := by
  cases test with
  | anyId => exact readsBack_anyId
  | oneOf ids =>
      obtain ⟨present, listed⟩ := listed_of_unwritableId? (.inl rfl) writable
      have notLone : ids ≠ ["all"] := by
        intro lone
        subst lone
        cases writable
      exact readsBack_oneOf present notLone listed
  | noneOf ids =>
      obtain ⟨present, listed⟩ := listed_of_unwritableId? (.inr rfl) writable
      exact readsBack_noneOf present listed

end IdTest

namespace Criterion

/-- A criterion is written as its letter and then its words, each behind a space. -/
theorem toList_text (criterion : Criterion) :
    criterion.text.toList =
      criterion.facet.letter ::
        criterion.test.wordCharacters.flatMap fun word => ' ' :: word := by
  have letter : (String.singleton criterion.facet.letter).toList = [criterion.facet.letter] :=
    String.toList_singleton _
  rw [text, String.toList_intercalate, List.map_cons, letter,
    intercalate_cons_eq_append_flatMap]
  rfl

end Criterion

theorem isWordCharacter_space : isWordCharacter ' ' = false := by
  decide +kernel

theorem endsNames_plus (rest : List Char) :
    NameToken.EndsNames (' ' :: '+' :: rest) := by
  refine ⟨endsName_space _, fun column => ⟨column + 1, ?_⟩⟩
  have present : ('+' :: rest).head? ≠ some ' ' := by simp
  simp only [NameToken.read, Cursor.skip?_cons, Cursor.skipSpaces_of_head? present]
  rfl

theorem endsNames_colon (rest : List Char) :
    NameToken.EndsNames (':' :: rest) := by
  refine ⟨?_, fun column => ⟨column, rfl⟩⟩
  intro next first
  cases Option.mem_def.mp first
  rfl

namespace CriterionToken

theorem meaning_eq (token : CriterionToken) :
    token.meaning = ⟨token.facet, .ofSaid (token.names.map NameToken.said)⟩ := by
  have sameTest : token.meaning.test = .ofSaid (token.names.map NameToken.said) := by
    by_cases lone : ∃ column, token.names = [⟨"all", false, column⟩]
    · obtain ⟨column, names⟩ := lone
      rw [test_meaning_of_lone_all names, names]
      rfl
    · have notLone : ∀ column, token.names ≠ [⟨"all", false, column⟩] := by
        simpa using lone
      have apart : token.names.map NameToken.said ≠ [("all", false)] := by
        intro same
        obtain ⟨name, others, shape, said, rest⟩ := List.map_eq_cons_iff.mp same
        have alone : others = [] := by simpa using rest
        rcases name with ⟨id, negated, column⟩
        simp only [NameToken.said, Prod.mk.injEq] at said
        exact notLone column (by rw [shape, alone, said.1, said.2])
      rw [test_meaning_of_not_lone_all notLone, IdTest.ofSaid_of_not_lone_all apart,
        List.any_map, List.map_map]
      rfl
  rw [← sameTest]
  rfl

/-- A criterion whose test reads back is read as one that is accepted and means it. -/
theorem read_text
    (problem : SyntaxProblem)
    (column : Nat)
    {criterion : Criterion}
    {rest : List Char}
    (readsBack : criterion.test.ReadsBack)
    (ends : NameToken.EndsNames rest) :
    ∃ token final,
      CriterionToken.read problem ⟨column, criterion.text.toList ++ rest⟩ =
          .ok (token, ⟨final, rest⟩) ∧
        token.Uniform ∧ token.meaning = criterion := by
  cases words : criterion.test.wordCharacters with
  | nil => exact absurd words readsBack.present
  | cons word others =>
      have names : ∀ other ∈ word :: others, IsName other := words ▸ readsBack.names
      have othersNames : ∀ other ∈ others, IsName other := fun other member =>
        names other (List.mem_cons_of_mem _ member)
      have shape :
          criterion.text.toList ++ rest =
            criterion.facet.letter ::
              ' ' :: (word ++ (others.flatMap (fun word => ' ' :: word) ++ rest)) := by
        simp [criterion.toList_text, words]
      have wordEnds : EndsName (others.flatMap (fun word => ' ' :: word) ++ rest) :=
        endsName_spaced (fun word => word) others ends.1
      obtain ⟨name, behind, nameRead, said⟩ :=
        NameToken.read_spaced (column + 1) (names word (by simp)) wordEnds
      obtain ⟨more, final, moreRead, moreSaid⟩ :=
        NameToken.readMore_spaced behind othersNames ends
      have saidAll :
          (name :: more).map NameToken.said =
            criterion.test.wordCharacters.map NameToken.saidBy := by
        rw [words, List.map_cons, List.map_cons, said, moreSaid]
      refine ⟨⟨criterion.facet, column, name :: more⟩, final, ?_, ?_, ?_⟩
      · have letterRead :
            LetterToken.read ⟨column, criterion.facet.letter ::
                ' ' :: (word ++ (others.flatMap (fun word => ' ' :: word) ++ rest))⟩ =
              .ok (⟨criterion.facet, column⟩, ⟨column + 1,
                ' ' :: (word ++ (others.flatMap (fun word => ' ' :: word) ++ rest))⟩) :=
          LetterToken.read_letter (by simp [isWordCharacter_space])
        simp only [CriterionToken.read, shape, letterRead, nameRead, moreRead]
      · obtain ⟨negated, alike⟩ := readsBack.alike
        rw [← saidAll] at alike
        intro firstName firstMember secondName secondMember
        exact (alike _ (List.mem_map_of_mem firstMember)).trans
          (alike _ (List.mem_map_of_mem secondMember)).symm
      · rw [meaning_eq, saidAll, readsBack.means]

theorem skipPlus?_written
    (column : Nat)
    {rest : List Char}
    (present : rest.head? ≠ some ' ') :
    skipPlus? ⟨column, ' ' :: '+' :: ' ' :: rest⟩ = some ⟨column + 3, rest⟩ := by
  have plus : ('+' :: ' ' :: rest).head? ≠ some ' ' := by simp
  simp only [skipPlus?, Cursor.skipSpaces_space, Cursor.skipSpaces_of_head? plus,
    Cursor.skip?_cons, Option.map_some, Cursor.skipSpaces_of_head? present]

theorem skipPlus?_colon (column : Nat) (rest : List Char) :
    skipPlus? ⟨column, ':' :: rest⟩ = none := by
  have colon : (':' :: rest).head? ≠ some ' ' := by simp
  have different : (':' :: rest).head? ≠ some '+' := by simp
  simp only [skipPlus?, Cursor.skipSpaces_of_head? colon,
    Cursor.skip?_of_head? different, Option.map_none]

/-- The written form of criteria behind the first, each behind a plus sign. -/
def furtherCharacters (criteria : List Criterion) : List Char :=
  criteria.flatMap fun criterion => ' ' :: '+' :: ' ' :: criterion.text.toList

theorem endsNames_furtherCharacters
    (criteria : List Criterion)
    (rest : List Char) :
    NameToken.EndsNames (furtherCharacters criteria ++ ':' :: rest) := by
  cases criteria with
  | nil => exact endsNames_colon rest
  | cons criterion others => exact endsNames_plus _

/-- Written criteria are read, up to the colon, as ones that are accepted and mean them. -/
theorem readMore_texts
    (column : Nat)
    (rest : List Char)
    {criteria : List Criterion}
    (readBack : ∀ criterion ∈ criteria, criterion.test.ReadsBack) :
    ∃ tokens final,
      readMore ⟨column, furtherCharacters criteria ++ ':' :: rest⟩ =
          .ok (tokens, ⟨final, ':' :: rest⟩) ∧
        (∀ token ∈ tokens, token.Uniform) ∧ tokens.map meaning = criteria := by
  induction criteria generalizing column with
  | nil => exact ⟨[], column, readMore_of_none (skipPlus?_colon column rest), by simp, rfl⟩
  | cons criterion others inductionHypothesis =>
      have shape :
          furtherCharacters (criterion :: others) ++ ':' :: rest =
            ' ' :: '+' :: ' ' ::
              (criterion.text.toList ++ (furtherCharacters others ++ ':' :: rest)) := by
        simp [furtherCharacters]
      have present :
          (criterion.text.toList ++
            (furtherCharacters others ++ ':' :: rest)).head? ≠ some ' ' := by
        rw [criterion.toList_text]
        simpa using criterion.facet.letter_ne_space
      obtain ⟨token, behind, read, uniform, means⟩ :=
        read_text .furtherCriterionExpected (column + 3) (readBack criterion (by simp))
          (endsNames_furtherCharacters others rest)
      obtain ⟨tokens, final, moreRead, othersUniform, othersMean⟩ :=
        inductionHypothesis behind fun other member => readBack other (by simp [member])
      refine ⟨token :: tokens, final, ?_, List.forall_mem_cons.mpr ⟨uniform, othersUniform⟩,
        by simp [means, othersMean]⟩
      rw [shape]
      exact readMore_of_ok (skipPlus?_written column present) read moreRead

end CriterionToken

end LendingRules
