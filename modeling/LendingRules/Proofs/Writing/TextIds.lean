import LendingRules.Proofs.Writing.TextRules

namespace LendingRules

/-!
# The ids that texts can give

An id of a rule that was read from text is a whole name on some line of the text.
A name has at least one character, but an exclamation mark alone is a name, and
what it negates is the empty id. A name holds no space and no colon and, as part
of a line, no tab and no line feed; every other character can stand in one, also
those that are blank. These are the only bounds: every such name is an id of
some text.
-/

/-- Characters that can stand on a line of a text that is read. -/
def FitsLine (characters : List Char) : Prop :=
  ∀ character ∈ characters, character ≠ '\t' ∧ character ≠ '\n'

instance (characters : List Char) : Decidable (FitsLine characters) :=
  List.decidableBAll _ characters

theorem FitsLine.append
    {first second : List Char}
    (firstFits : FitsLine first)
    (secondFits : FitsLine second) :
    FitsLine (first ++ second) :=
  List.forall_mem_append.mpr ⟨firstFits, secondFits⟩

/-- Whether an id is a token: not empty and without blanks. -/
def IsToken (id : String) : Prop :=
  id ≠ "" ∧ ∀ character ∈ id.toList, isBlank character = false

instance (id : String) : Decidable (IsToken id) :=
  let _ : Decidable (∀ character ∈ id.toList, isBlank character = false) :=
    List.decidableBAll _ id.toList
  inferInstanceAs (Decidable (_ ∧ _))

/-- A criterion on names that stand on lines of a text, all alike. -/
def Criterion.TakenFrom (text : List Char) (criterion : Criterion) : Prop :=
  ∃ words : List (List Char),
    (∀ word ∈ words, ∃ line ∈ textLines text, IsNameOn line word) ∧
      (∃ negated, ∀ said ∈ words.map NameToken.saidBy, said.2 = negated) ∧
        criterion.test = .ofSaid (words.map NameToken.saidBy)

/-- Policies whose ids are names that stand on lines of a text. -/
def Policies.TakenFrom (text : List Char) (policies : Policies) : Prop :=
  ∀ type id, policies.get? type = some id →
    ∃ line ∈ textLines text, IsNameOn line id.toList

/-- Ids that are asked for come from words without an exclamation mark in front. -/
theorem IdTest.head?_ne_of_ofSaid
    {words : List (List Char)}
    {word : List Char}
    {ids : List String}
    (asks : ofSaid (words.map NameToken.saidBy) = .oneOf ids)
    (member : word ∈ words) :
    word.head? ≠ some '!' := by
  intro marked
  obtain ⟨name, rfl⟩ := List.head?_eq_some_iff.mp marked
  have negated : (words.map NameToken.saidBy).any Prod.snd = true :=
    List.any_eq_true.mpr ⟨_, List.mem_map_of_mem member, rfl⟩
  have notLone : words.map NameToken.saidBy ≠ [("all", false)] := by
    intro lone
    rw [lone] at negated
    cases negated
  rw [ofSaid_of_not_lone_all notLone, if_pos negated] at asks
  cases asks

theorem IdTest.ofSaid_twice (id : String) (negated : Bool) :
    ofSaid [(id, negated), (id, negated)] =
      if negated then .noneOf [id, id] else .oneOf [id, id] := by
  rw [ofSaid_of_not_lone_all (by simp)]
  cases negated <;> rfl

/-- What is taken from a line of a text is taken from the text when it is accepted. -/
theorem Clause.means_of_takenFrom
    {text line : List Char}
    {clause : Clause}
    (member : line ∈ textLines text)
    (taken : clause.TakenFrom line) :
    clause.Means (Criterion.TakenFrom text) (Policies.TakenFrom text) := by
  have policies {list : PolicyList} (listTaken : list.TakenFrom line)
      (distinct : (list.tokens.map PolicyToken.type).Nodup) :
      list.meaning.TakenFrom text := by
    intro type id given
    obtain ⟨token, listed, -, rfl⟩ :=
      (PolicyList.assigns_meaning distinct type id).mp given
    exact ⟨line, member, listTaken token listed⟩
  cases clause with
  | fallback list => exact policies taken
  | criteria tokens list? =>
      refine ⟨fun token listed uniform => ?_, fun list given => policies (taken.2 list given)⟩
      obtain ⟨present, names⟩ := taken.1 token listed
      obtain ⟨words, standing, said⟩ := NameToken.exists_words names
      refine ⟨words, fun word wordMember => ⟨line, member, standing word wordMember⟩, ?_, ?_⟩
      · rw [said]
        exact uniform.exists_negated present
      · rw [said, token.meaning_eq]

namespace Rulebook

variable {text : String} {rulebook : Rulebook}

/-- The rules of a text take their ids from the text. -/
theorem takenFrom_of_ofText
    (compiled : ofText text = .ok rulebook) :
    ∀ rule ∈ rulebook.rules,
      (∀ criterion ∈ rule.criteria, criterion.TakenFrom text.toList) ∧
        rule.policies.TakenFrom text.toList := by
  obtain ⟨document, ranking, rules, read, -, resolved, rfl⟩ := ofText_eq_ok_iff.mp compiled
  obtain ⟨last, added, -, -⟩ := Document.rules_eq_ok_iff.mp resolved
  refine Nesting.forall_rules_of_addAll (by simp [Nesting.start]) ?_ added
  intro entry member
  obtain ⟨index, line, -, stands, stated, -⟩ := (Document.entry_standsIn read member).stands
  exact Clause.means_of_takenFrom (List.mem_of_getElem? stands)
    (Statement.ofLine_eq_ok_iff.mp stated).takenFrom

/-- Whether some rule assigns the policy id. -/
def Assigns (rulebook : Rulebook) (id : String) : Prop :=
  ∃ rule ∈ rulebook.rules, ∃ type, rule.policies.get? type = some id

/-- Whether some criterion asks for the id, among others perhaps. -/
def AsksFor (rulebook : Rulebook) (id : String) : Prop :=
  ∃ rule ∈ rulebook.rules, ∃ criterion ∈ rule.criteria, ∃ ids,
    criterion.test = .oneOf ids ∧ id ∈ ids

/-- Whether some criterion excludes the id, among others perhaps. -/
def Excludes (rulebook : Rulebook) (id : String) : Prop :=
  ∃ rule ∈ rulebook.rules, ∃ criterion ∈ rule.criteria, ∃ ids,
    criterion.test = .noneOf ids ∧ id ∈ ids

/-- A policy id is a name of the text. -/
theorem Assigns.isNameOn
    {id : String}
    (assigns : rulebook.Assigns id)
    (compiled : ofText text = .ok rulebook) :
    ∃ line ∈ textLines text.toList, IsNameOn line id.toList := by
  obtain ⟨rule, member, type, given⟩ := assigns
  exact (takenFrom_of_ofText compiled rule member).2 type id given

/-- An id that is asked for is a name of the text that does not begin as a negated one. -/
theorem AsksFor.isNameOn
    {id : String}
    (asks : rulebook.AsksFor id)
    (compiled : ofText text = .ok rulebook) :
    (∃ line ∈ textLines text.toList, IsNameOn line id.toList) ∧
      id.toList.head? ≠ some '!' := by
  obtain ⟨rule, member, criterion, listed, ids, test, idMember⟩ := asks
  obtain ⟨words, standing, alike, made⟩ :=
    (takenFrom_of_ofText compiled rule member).1 criterion listed
  have same := IdTest.wordCharacters_ofSaid alike
  rw [← made, test] at same
  have word : id.toList ∈ words := same ▸ List.mem_map_of_mem idMember
  exact ⟨standing _ word, IdTest.head?_ne_of_ofSaid (made.symm.trans test) word⟩

theorem Excludes.isNameOn
    {id : String}
    (excludes : rulebook.Excludes id)
    (compiled : ofText text = .ok rulebook) :
    ∃ line ∈ textLines text.toList, IsNameOn line ('!' :: id.toList) := by
  obtain ⟨rule, member, criterion, listed, ids, test, idMember⟩ := excludes
  obtain ⟨words, standing, alike, made⟩ :=
    (takenFrom_of_ofText compiled rule member).1 criterion listed
  have same := IdTest.wordCharacters_ofSaid alike
  rw [← made, test] at same
  have word : '!' :: id.toList ∈ words := by
    rw [← same, IdTest.wordCharacters, IdTest.words, List.map_map]
    exact List.mem_map.mpr ⟨id, idMember, by simp⟩
  exact standing _ word

end Rulebook

/-- Lines that name an id for the fallback policy, and a word in a criterion, twice. -/
def namingLines (word id : List Char) : List (List Char) :=
  ["priority: last-line".toList,
    Statement.fallbackWord ++ ':' :: ' ' :: 'l' :: ' ' :: (id ++ [' ']),
    'm' :: ' ' :: (word ++ ' ' :: (word ++ ": l x ".toList))]

/-- One policy behind a colon, read up to what ends its id. -/
theorem PolicyList.exists_derives
    (column : Nat)
    {id rest : List Char}
    (isName : IsName id)
    (ends : EndsName rest) :
    ∃ list final,
      Derives ⟨column, ':' :: ' ' :: 'l' :: ' ' :: (id ++ rest)⟩ list ⟨final, rest⟩ ∧
        list.tokens.map (fun token => (token.type, token.id)) = [(.loan, String.ofList id)] := by
  have colon :
      (Cursor.mk column (':' :: ' ' :: 'l' :: ' ' :: (id ++ rest))).Passes [':']
        ⟨column + 1, ' ' :: 'l' :: ' ' :: (id ++ rest)⟩ := ⟨rfl, rfl⟩
  have space :
      (Cursor.mk (column + 1) (' ' :: 'l' :: ' ' :: (id ++ rest))).Spaces
        ⟨column + 2, 'l' :: ' ' :: (id ++ rest)⟩ := ⟨1, rfl, rfl⟩
  have letter :
      (Cursor.mk (column + 2) ('l' :: ' ' :: (id ++ rest))).Passes [PolicyType.loan.letter]
        ⟨column + 3, ' ' :: (id ++ rest)⟩ := ⟨rfl, rfl⟩
  have spaces :
      (Cursor.mk (column + 3) (' ' :: (id ++ rest))).SomeSpaces
        ⟨column + 4, id ++ rest⟩ := ⟨0, rfl, rfl⟩
  have name :
      (Cursor.mk (column + 4) (id ++ rest)).PassesName id
        ⟨column + 4 + id.length, rest⟩ := ⟨isName, ⟨rfl, rfl⟩, ends⟩
  exact ⟨_, _, .list colon (.cons space (.policy letter spaces name) .nil), rfl⟩

/-- A list of one policy is accepted. -/
theorem PolicyList.policies_of_single
    {list : PolicyList}
    {pair : PolicyType × String}
    (single : list.tokens.map (fun token => (token.type, token.id)) = [pair])
    (line : Nat) :
    list.policies line = .ok (.ofPairs [pair]) := by
  have types : list.tokens.map PolicyToken.type = [pair.1] := by
    have firsts := congrArg (List.map Prod.fst) single
    rwa [List.map_map] at firsts
  refine PolicyList.policies_eq_ok_iff.mpr ⟨?_, ?_, ?_⟩
  · intro none
    rw [none] at single
    cases single
  · simp [types]
  · rw [PolicyList.meaning, single]

/-- A criterion that says one word twice, read up to what ends the word. -/
theorem CriterionToken.exists_derives
    (column : Nat)
    {word rest : List Char}
    (isName : IsName word)
    (ends : EndsName rest) :
    ∃ token final,
      Derives ⟨column, 'm' :: ' ' :: (word ++ ' ' :: (word ++ rest))⟩ token ⟨final, rest⟩ ∧
        token.facet = .materialType ∧
          token.names.map NameToken.said = [NameToken.saidBy word, NameToken.saidBy word] := by
  have letter :
      LetterToken.Derives ⟨column, 'm' :: ' ' :: (word ++ ' ' :: (word ++ rest))⟩
        ⟨.materialType, column⟩ ⟨column + 1, ' ' :: (word ++ ' ' :: (word ++ rest))⟩ := by
    refine .letter ⟨rfl, rfl⟩ fun next first => ?_
    cases Option.mem_def.mp first
    exact isWordCharacter_space
  have spacedName (column : Nat) (rest : List Char) (ends : EndsName rest) :
      Spaced NameToken.Derives ⟨column, ' ' :: (word ++ rest)⟩
        (.ofCharacters (column + 1) word) ⟨column + 1 + word.length, rest⟩ := by
    have space :
        (Cursor.mk column (' ' :: (word ++ rest))).SomeSpaces
          ⟨column + 1, word ++ rest⟩ := ⟨0, rfl, rfl⟩
    exact .spaced space (.name ⟨isName, ⟨rfl, rfl⟩, ends⟩)
  refine ⟨_, _, .criterion letter (spacedName _ _ (endsName_space _))
    (.cons (spacedName _ _ ends) .nil), rfl, ?_⟩
  rw [List.map_cons, List.map_cons, NameToken.said_ofCharacters, NameToken.said_ofCharacters]
  rfl

/-- The text of the naming lines. -/
def namingText (word id : List Char) : String :=
  .ofList ((namingLines word id).flatMap fun line => line ++ ['\n'])

section Naming

variable {word id : List Char}

theorem fitsLine_namingLines
    (wordFits : FitsLine word)
    (idFits : FitsLine id) :
    ∀ line ∈ namingLines word id, FitsLine line := by
  have ranking : FitsLine "priority: last-line".toList := by decide
  have fallback : FitsLine Statement.fallbackWord := by decide
  have policy : FitsLine [':', ' ', 'l', ' '] := by decide
  have facet : FitsLine ['m', ' '] := by decide
  have space : FitsLine [' '] := by decide
  have policies : FitsLine ": l x ".toList := by decide
  refine List.forall_mem_cons.mpr ⟨ranking, List.forall_mem_cons.mpr ⟨?_, ?_⟩⟩
  · exact fallback.append (policy.append (idFits.append space))
  · refine List.forall_mem_singleton.mpr ?_
    exact facet.append (wordFits.append (space.append (wordFits.append policies)))

/-- Each line ends in a character that is kept in front of the line feed. -/
theorem textLines_namingText
    (wordFits : FitsLine word)
    (idFits : FitsLine id) :
    textLines (namingText word id).toList = namingLines word id := by
  have fits := fitsLine_namingLines wordFits idFits
  have cut :=
    textLines_flatMap_append (fun line member feed => (fits line member '\n' feed).2 rfl) []
  have bare : ∀ line ∈ namingLines word id, dropReturn line = line := by
    have ranking : "priority: last-line".toList.getLast? ≠ some '\r' := by decide
    have policies : ": l x ".toList.getLast? = some ' ' := by decide
    refine List.forall_mem_cons.mpr ⟨dropReturn_of_bare ranking,
      List.forall_mem_cons.mpr ⟨dropReturn_of_bare ?_,
        List.forall_mem_singleton.mpr (dropReturn_of_bare ?_)⟩⟩
    · simp [List.getLast?_append, List.getLast?_cons]
    · simp [List.getLast?_append, List.getLast?_cons]
  rw [List.append_nil, List.map_congr_left bare, List.map_id'] at cut
  rw [namingText, String.toList_ofList]
  exact cut.trans (List.append_nil _)

theorem exists_derivesLine_fallback (idName : IsName id) :
    ∃ list,
      Statement.DerivesLine
          (Statement.fallbackWord ++ ':' :: ' ' :: 'l' :: ' ' :: (id ++ [' ']))
          (.clause (.fallback list)) ∧
        list.tokens.map (fun token => (token.type, token.id)) = [(.loan, String.ofList id)] := by
  obtain ⟨list, final, policies, given⟩ :=
    PolicyList.exists_derives (1 + Statement.fallbackWord.length) idName (endsName_space [])
  have announced :
      (Cursor.start
          (Statement.fallbackWord ++ ':' :: ' ' :: 'l' :: ' ' :: (id ++ [' ']))).Passes
        Statement.fallbackWord
        ⟨1 + Statement.fallbackWord.length, ':' :: ' ' :: 'l' :: ' ' :: (id ++ [' '])⟩ :=
    ⟨rfl, rfl⟩
  have space : (Cursor.mk final [' ']).Spaces ⟨final + 1, []⟩ := ⟨1, rfl, rfl⟩
  exact ⟨list, .line (Cursor.spaces_refl _)
    (.fallback announced (Cursor.spaces_refl _) policies) space (.inl rfl), given⟩

theorem exists_derivesLine_criterion (isName : IsName word) :
    ∃ token list,
      Statement.DerivesLine ('m' :: ' ' :: (word ++ ' ' :: (word ++ ": l x ".toList)))
          (.clause (.criteria [token] (some list))) ∧
        token.facet = .materialType ∧
          token.names.map NameToken.said =
              [NameToken.saidBy word, NameToken.saidBy word] ∧
            list.tokens.map (fun token => (token.type, token.id)) = [(.loan, "x")] := by
  have colonEnds : EndsName (": l x ".toList) := by
    intro next first
    cases Option.mem_def.mp first
    rfl
  obtain ⟨token, behind, criterion, facet, names⟩ :=
    CriterionToken.exists_derives 1 isName colonEnds
  have plainName : IsName ['x'] := ⟨rfl, by simp⟩
  obtain ⟨list, final, policies, given⟩ :=
    PolicyList.exists_derives behind plainName (endsName_space [])
  have space : (Cursor.mk final [' ']).Spaces ⟨final + 1, []⟩ := ⟨1, rfl, rfl⟩
  exact ⟨token, list, .line (Cursor.spaces_refl _)
    (.rule criterion .nil (Cursor.spaces_refl _) policies) space (.inl rfl), facet, names, given⟩

/-- A fallback and a criterion on two alike names give their rules. -/
theorem rules_of_single_policies
    (items : List RankingItem)
    {fallback list : PolicyList}
    {token : CriterionToken}
    {said : String × Bool}
    {fallbackPair pair : PolicyType × String}
    (fallbackGiven :
      fallback.tokens.map (fun token => (token.type, token.id)) = [fallbackPair])
    (facet : token.facet = .materialType)
    (names : token.names.map NameToken.said = [said, said])
    (given : list.tokens.map (fun token => (token.type, token.id)) = [pair]) :
    Document.rules ⟨1, items,
        [⟨2, 0, .fallback fallback⟩, ⟨3, 0, .criteria [token] (some list)⟩]⟩ =
      .ok [⟨.fallback, .ofPairs [fallbackPair], 2⟩,
        ⟨.allOf [⟨.materialType, .ofSaid [said, said]⟩], .ofPairs [pair], 3⟩] := by
  have means : token.meaning = ⟨.materialType, .ofSaid [said, said]⟩ := by
    rw [token.meaning_eq, facet, names]
  have alike : ∀ name ∈ token.names, name.said = said := by
    intro name member
    have listed : name.said ∈ [said, said] := names ▸ List.mem_map_of_mem member
    simpa using listed
  have extended : CriterionToken.extend 3 [] [token] = .ok [token.meaning] := by
    refine CriterionToken.extend_eq_ok_iff.mpr ⟨?_, by simp, by simp, rfl⟩
    refine List.forall_mem_singleton.mpr fun first firstMember second secondMember => ?_
    exact congrArg Prod.snd ((alike first firstMember).trans (alike second secondMember).symm)
  have fallbackAdded :
      Nesting.start.add ⟨2, 0, .fallback fallback⟩ =
        .ok (some ⟨.fallback, .ofPairs [fallbackPair], 2⟩, ⟨[], true⟩) :=
    Nesting.add_fallback_eq_ok_iff.mpr
      ⟨rfl, by simp [Nesting.start], rfl, _, fallback.policies_of_single fallbackGiven 2, rfl, rfl⟩
  have criteriaAdded :
      Nesting.add ⟨[], true⟩ ⟨3, 0, .criteria [token] (some list)⟩ =
        .ok (some ⟨.allOf [token.meaning], .ofPairs [pair], 3⟩,
          ⟨[⟨3, 0, [token.meaning], false, false⟩], true⟩) := by
    have accepted := list.policies_of_single given 3
    obtain ⟨-, -, assigned⟩ := PolicyList.policies_eq_ok_iff.mp accepted
    refine Nesting.add_criteria_eq_ok_iff.mpr ⟨by simp, _, extended, by simp [accepted], ?_, rfl⟩
    rw [assigned]
    rfl
  have allAdded :
      Nesting.start.addAll
          [⟨2, 0, .fallback fallback⟩, ⟨3, 0, .criteria [token] (some list)⟩] =
        .ok ([⟨.fallback, .ofPairs [fallbackPair], 2⟩,
          ⟨.allOf [token.meaning], .ofPairs [pair], 3⟩],
          ⟨[⟨3, 0, [token.meaning], false, false⟩], true⟩) :=
    Nesting.addAll_cons_eq_ok_iff.mpr ⟨_, _, _, fallbackAdded,
      Nesting.addAll_cons_eq_ok_iff.mpr ⟨_, _, _, criteriaAdded, rfl, rfl⟩, rfl⟩
  rw [← means]
  exact Document.rules_eq_ok_iff.mpr ⟨_, allAdded, by simp [Frame.Childless], rfl⟩

theorem derivesLine_lastLine :
    Statement.DerivesLine "priority: last-line".toList (.ranking [⟨11, .line .lastLine⟩]) := by
  have word :
      (Cursor.start "priority: last-line".toList).Passes "priority".toList
        ⟨9, ": last-line".toList⟩ := ⟨rfl, rfl⟩
  have colon : (Cursor.mk 9 ": last-line".toList).Passes [':'] ⟨10, " last-line".toList⟩ :=
    ⟨rfl, rfl⟩
  have space : (Cursor.mk 10 " last-line".toList).Spaces ⟨11, "last-line".toList⟩ :=
    ⟨1, rfl, rfl⟩
  have key : (Cursor.mk 11 "last-line".toList).Passes "last-line".toList ⟨20, []⟩ :=
    ⟨rfl, rfl⟩
  exact .line (Cursor.spaces_refl _)
    (.ranking word (Cursor.spaces_refl _) colon space (.keys (.lastLine key) .nil))
    (Cursor.spaces_refl _) (.inl rfl)

/-- The words are read as the test and the policy id that they stand for. -/
theorem exists_ofText_namingText
    (isName : IsName word)
    (wordFits : FitsLine word)
    (idName : IsName id)
    (idFits : FitsLine id) :
    ∃ rulebook, Rulebook.ofText (namingText word id) = .ok rulebook ∧
      rulebook.rules =
        [⟨.fallback, .ofPairs [(.loan, String.ofList id)], 2⟩,
          ⟨.allOf [⟨.materialType, .ofSaid [NameToken.saidBy word, NameToken.saidBy word]⟩],
            .ofPairs [(.loan, "x")], 3⟩] := by
  have noTab : '\t' ∉ (namingText word id).toList := by
    rw [namingText, String.toList_ofList]
    intro tab
    obtain ⟨line, member, here⟩ := List.mem_flatMap.mp tab
    rcases List.mem_append.mp here with inLine | feed
    · exact (fitsLine_namingLines wordFits idFits line member '\t' inLine).1 rfl
    · cases List.mem_singleton.mp feed
  have spoken :
      spokenLines (namingText word id).toList = numberedFrom 1 (namingLines word id) := by
    rw [← statementLines_eq_spokenLines, statementLines, numberedLines,
      textLines_namingText wordFits idFits]
    rfl
  obtain ⟨fallback, fallbackDerives, fallbackGiven⟩ := exists_derivesLine_fallback idName
  obtain ⟨token, list, ruleDerives, facet, names, given⟩ := exists_derivesLine_criterion isName
  have read :
      Document.ofText (namingText word id) =
        .ok ⟨1, [⟨11, .line .lastLine⟩],
          [⟨2, 0, .fallback fallback⟩, ⟨3, 0, .criteria [token] (some list)⟩]⟩ := by
    rw [Document.ofText_eq_ok_iff_derives noTab, spoken]
    exact .document derivesLine_lastLine
      (.cons ⟨fallbackDerives, rfl, rfl⟩ (.cons ⟨ruleDerives, rfl, rfl⟩ .nil))
  have resolved :=
    rules_of_single_policies [⟨11, .line .lastLine⟩] fallbackGiven facet names given
  exact ⟨_, Rulebook.ofText_eq_ok_iff.mpr ⟨_, _, _, read, rfl, resolved, rfl⟩, rfl⟩

end Naming

/-- A name for the places of the naming lines that do not matter. -/
theorem plainName : IsName ['a'] ∧ FitsLine ['a'] :=
  ⟨⟨rfl, by simp⟩, by decide⟩

namespace Rulebook

/-- A name of a text that is read holds no tab and no line feed. -/
theorem fitsLine_of_isNameOn
    {text : String}
    {rulebook : Rulebook}
    {word line : List Char}
    (compiled : ofText text = .ok rulebook)
    (member : line ∈ textLines text.toList)
    (isNameOn : IsNameOn line word) :
    FitsLine word := by
  obtain ⟨document, -, -, read, -⟩ := ofText_eq_ok_iff.mp compiled
  have noTab := firstTab?_eq_none_iff.mp (Document.ofText_eq_ok_iff.mp read).1
  intro character listed
  obtain ⟨notFeed, inText⟩ :=
    ne_newline_and_mem_of_mem_textLines member (isNameOn.subset listed)
  refine ⟨?_, notFeed⟩
  rintro rfl
  exact noTab inText

/-- The ids of a rulebook: of its policies and in its criteria. -/
def HasId (rulebook : Rulebook) (id : String) : Prop :=
  rulebook.Assigns id ∨ rulebook.AsksFor id ∨ rulebook.Excludes id

/--
All ids of a text are tokens when its lines have no blank but the space and no
exclamation mark that a name could consist of.
-/
theorem isToken_of_ofText
    {text id : String}
    {rulebook : Rulebook}
    (compiled : ofText text = .ok rulebook)
    (blanks : ∀ line ∈ textLines text.toList, ∀ character ∈ line,
      isBlank character = true → character = ' ')
    (marks : ∀ line ∈ textLines text.toList, ¬ IsNameOn line ['!'])
    (named : rulebook.HasId id) :
    IsToken id := by
  have unblank {line word : List Char} (member : line ∈ textLines text.toList)
      (isNameOn : IsNameOn line word) : ∀ character ∈ word, isBlank character = false := by
    intro character listed
    rw [Bool.eq_false_iff]
    intro blank
    cases blanks line member character (isNameOn.subset listed) blank
    cases isNameOn.isName.continues ' ' listed
  have token (isNameOn : ∃ line ∈ textLines text.toList, IsNameOn line id.toList) :
      IsToken id := by
    obtain ⟨line, member, isNameOn⟩ := isNameOn
    refine ⟨?_, unblank member isNameOn⟩
    rintro rfl
    exact isNameOn.isName
  rcases named with assigns | asks | excludes
  · exact token (assigns.isNameOn compiled)
  · exact token (asks.isNameOn compiled).1
  · obtain ⟨line, member, isNameOn⟩ := excludes.isNameOn compiled
    refine ⟨?_, (List.forall_mem_cons.mp (unblank member isNameOn)).2⟩
    rintro rfl
    exact marks line member isNameOn

/-- The policy ids of texts are the names without tab and line feed. -/
theorem exists_assigns_iff (id : String) :
    (∃ text rulebook, ofText text = .ok rulebook ∧ rulebook.Assigns id) ↔
      IsName id.toList ∧ FitsLine id.toList := by
  constructor
  · rintro ⟨text, rulebook, compiled, assigns⟩
    obtain ⟨line, member, isNameOn⟩ := assigns.isNameOn compiled
    exact ⟨isNameOn.isName, fitsLine_of_isNameOn compiled member isNameOn⟩
  · rintro ⟨isName, fits⟩
    obtain ⟨rulebook, compiled, rules⟩ :=
      exists_ofText_namingText plainName.1 plainName.2 isName fits
    refine ⟨_, rulebook, compiled, _, rules ▸ List.mem_cons_self, .loan, ?_⟩
    rw [String.ofList_toList]
    rfl

/-- The ids that criteria of texts ask for are the names without an exclamation mark in front. -/
theorem exists_asksFor_iff (id : String) :
    (∃ text rulebook, ofText text = .ok rulebook ∧ rulebook.AsksFor id) ↔
      IsName id.toList ∧ FitsLine id.toList ∧ id.toList.head? ≠ some '!' := by
  constructor
  · rintro ⟨text, rulebook, compiled, asks⟩
    obtain ⟨⟨line, member, isNameOn⟩, unmarked⟩ := asks.isNameOn compiled
    exact ⟨isNameOn.isName, fitsLine_of_isNameOn compiled member isNameOn, unmarked⟩
  · rintro ⟨isName, fits, unmarked⟩
    obtain ⟨rulebook, compiled, rules⟩ :=
      exists_ofText_namingText isName fits plainName.1 plainName.2
    rw [NameToken.saidBy_plain unmarked, IdTest.ofSaid_twice] at rules
    exact ⟨_, rulebook, compiled, _, rules ▸ List.mem_cons_of_mem _ List.mem_cons_self,
      _, List.mem_cons_self, [id, id], rfl, List.mem_cons_self⟩

/-- The ids that criteria of texts exclude are what can stand behind an exclamation mark. -/
theorem exists_excludes_iff (id : String) :
    (∃ text rulebook, ofText text = .ok rulebook ∧ rulebook.Excludes id) ↔
      FitsLine id.toList ∧ ∀ character ∈ id.toList, continuesName character = true := by
  constructor
  · rintro ⟨text, rulebook, compiled, excludes⟩
    obtain ⟨line, member, isNameOn⟩ := excludes.isNameOn compiled
    have fits := fitsLine_of_isNameOn compiled member isNameOn
    exact ⟨(List.forall_mem_cons.mp fits).2, isNameOn.isName.2⟩
  · rintro ⟨fits, continues⟩
    have isName : IsName ('!' :: id.toList) := ⟨rfl, continues⟩
    have markedFits : FitsLine ('!' :: id.toList) :=
      List.forall_mem_cons.mpr ⟨by decide, fits⟩
    obtain ⟨rulebook, compiled, rules⟩ :=
      exists_ofText_namingText isName markedFits plainName.1 plainName.2
    rw [NameToken.saidBy_negated, IdTest.ofSaid_twice] at rules
    exact ⟨_, rulebook, compiled, _, rules ▸ List.mem_cons_of_mem _ List.mem_cons_self,
      _, List.mem_cons_self, [id, id], rfl, List.mem_cons_self⟩

/--
The ids that the rules of texts have: for policies the names without tab and
line feed, in a plain criterion those without an exclamation mark in front, and
in a negated one everything without space, colon, tab and line feed, the empty
id among them.
-/
theorem exists_ofText_with_id_iff (id : String) :
    ((∃ text rulebook, ofText text = .ok rulebook ∧ rulebook.Assigns id) ↔
        IsName id.toList ∧ FitsLine id.toList) ∧
      ((∃ text rulebook, ofText text = .ok rulebook ∧ rulebook.AsksFor id) ↔
        IsName id.toList ∧ FitsLine id.toList ∧ id.toList.head? ≠ some '!') ∧
        ((∃ text rulebook, ofText text = .ok rulebook ∧ rulebook.Excludes id) ↔
          FitsLine id.toList ∧
            ∀ character ∈ id.toList, continuesName character = true) :=
  ⟨exists_assigns_iff id, exists_asksFor_iff id, exists_excludes_iff id⟩

/-- A text with a lone exclamation mark for a name, and a blank other than the space in one. -/
def looseText : String :=
  "priority: last-line\nfallback-policy: l x\nm !: l y\ng a\u00a0b: l z\n"

/-- The loose text is read, although two of its ids are no tokens. -/
theorem not_isToken_of_looseText :
    ∃ rulebook, ofText looseText = .ok rulebook ∧
      (rulebook.Excludes "" ∧ ¬ IsToken "") ∧
        rulebook.AsksFor "a\u00a0b" ∧ ¬ IsToken "a\u00a0b" := by
  obtain ⟨rulebook, compiled⟩ :=
    exists_of_accepted (by decide +kernel : (ofText looseText).isOk = true)
  have rules :
      (ofText looseText).toOption.elim [] Rulebook.rules =
        [⟨.fallback, .ofPairs [(.loan, "x")], 2⟩,
          ⟨.allOf [⟨.materialType, .noneOf [""]⟩], .ofPairs [(.loan, "y")], 3⟩,
          ⟨.allOf [⟨.patronGroup, .oneOf ["a\u00a0b"]⟩], .ofPairs [(.loan, "z")], 4⟩] := by
    decide +kernel
  rw [compiled] at rules
  have rules : rulebook.rules = _ := rules
  have second :
      ⟨.allOf [⟨.materialType, .noneOf [""]⟩], .ofPairs [(.loan, "y")], 3⟩ ∈
        rulebook.rules := by
    simp [rules]
  have third :
      ⟨.allOf [⟨.patronGroup, .oneOf ["a\u00a0b"]⟩], .ofPairs [(.loan, "z")], 4⟩ ∈
        rulebook.rules := by
    simp [rules]
  have excludes : rulebook.Excludes "" :=
    ⟨_, second, _, List.mem_cons_self, [""], rfl, List.mem_cons_self⟩
  have asks : rulebook.AsksFor "a\u00a0b" :=
    ⟨_, third, _, List.mem_cons_self, ["a\u00a0b"], rfl, List.mem_cons_self⟩
  exact ⟨rulebook, compiled, ⟨excludes, by decide⟩, asks, by decide⟩

end Rulebook

end LendingRules
