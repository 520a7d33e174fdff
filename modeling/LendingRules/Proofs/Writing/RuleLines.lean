import LendingRules.Proofs.Rulings.Made
import LendingRules.Proofs.Writing.Criteria
import LendingRules.Proofs.Writing.PlainLines

namespace LendingRules

/-!
# Written rules read back

The line of a writable rule holds no line break and no tab, so it is a line of the
text, and it is read as a statement that means the rule: its criteria in their
order, and its policies. A rule without flaw is writable.
-/

theorem PolicyType.isBlank_letter (type : PolicyType) : isBlank type.letter = false := by
  cases type <;> decide

theorem Facet.isBlank_letter (facet : Facet) : isBlank facet.letter = false := by
  cases facet <;> decide

theorem Facet.letter_begins
    (facet : Facet) :
    facet.letter ≠ ' ' ∧ facet.letter ≠ '#' ∧ facet.letter ≠ '/' := by
  cases facet <;> decide

namespace Policies

/-- One policy as written: its letter, a space, and its id. -/
def pairCharacters (pair : PolicyType × String) : List Char :=
  pair.1.letter :: ' ' :: pair.2.toList

/-- Policies are written one after the other with a space in front of each. -/
theorem toList_text
    {policies : Policies}
    (present : policies.toList ≠ []) :
    ' ' :: policies.text.toList =
      policies.toList.flatMap fun pair => ' ' :: pairCharacters pair := by
  rw [text, String.toList_intercalate, List.map_map]
  cases listed : policies.toList with
  | nil => exact absurd listed present
  | cons pair others =>
      have space : " ".toList = [' '] := rfl
      rw [List.map_cons, intercalate_cons_eq_append_flatMap, List.flatMap_map]
      simp [pairCharacters, space]

theorem nodup_types_toList (policies : Policies) :
    (policies.toList.map Prod.fst).Nodup := by
  have types :
      policies.toList.map Prod.fst = PolicyType.all.filter policies.assigns := by
    rw [toList, List.map_filterMap, ← List.filterMap_eq_filter]
    refine List.filterMap_congr fun type _ => ?_
    cases given : policies.get? type <;> simp [assigns, Option.guard, given]
  rw [types]
  exact PolicyType.nodup_all.filter _

/-- Assigning the listed policies gives the policies back. -/
theorem ofPairs_toList (policies : Policies) :
    ofPairs policies.toList = policies := by
  apply ext_get?
  intro type
  apply Option.ext
  intro id
  rw [get?_ofPairs policies.nodup_types_toList, mem_toList]

/-- Policies whose ids are written as unbroken names. -/
def ReadBack (policies : Policies) : Prop :=
  ∀ pair ∈ policies.toList, IsName pair.2.toList ∧ Unbroken pair.2.toList

/-- Nothing unwritable among policies means that they read back. -/
theorem readBack_of_unwritableId?
    {policies : Policies}
    (writable : policies.unwritableId? = .none) :
    policies.ReadBack := by
  intro pair member
  have unfound := List.find?_eq_none.mp writable pair.2 (List.mem_map_of_mem member)
  have id : isWritableId ['+', '#'] pair.2 = true := by simpa using unfound
  exact ⟨isName_of_isWritableId (by decide) (by decide) id, .of_isWritableId id⟩

theorem unbroken_text
    {policies : Policies}
    (present : policies.toList ≠ [])
    (readBack : policies.ReadBack) :
    Unbroken (' ' :: policies.text.toList) := by
  rw [toList_text present]
  apply Unbroken.flatMap
  intro pair member
  exact .space (.cons pair.1.isBlank_letter (.space (readBack pair member).2))

end Policies

namespace PolicyToken

/-- A written policy is read as a token that says it. -/
theorem read_pair
    (column : Nat)
    {pair : PolicyType × String}
    {rest : List Char}
    (isName : IsName pair.2.toList)
    (ends : EndsName rest) :
    ∃ token final,
      PolicyToken.read ⟨column, Policies.pairCharacters pair ++ rest⟩ =
          .ok (token, ⟨final, rest⟩) ∧
        (token.type, token.id) = pair := by
  rcases pair with ⟨type, id⟩
  have notSpace : type.letter ≠ ' ' := type.letter_ne_space
  have spanned :
      Cursor.span ⟨column, [type.letter] ++ ' ' :: (id.toList ++ rest)⟩ (· ≠ ' ') =
        ([type.letter], ⟨column + 1, ' ' :: (id.toList ++ rest)⟩) :=
    Cursor.span_append (by simp [notSpace]) (by simp)
  have word :
      Cursor.span ⟨column, Policies.pairCharacters (type, id) ++ rest⟩ (· ≠ ' ') =
        ([type.letter], ⟨column + 1, ' ' :: (id.toList ++ rest)⟩) := spanned
  have nameRead :
      readName? ⟨column + 1 + 1, id.toList ++ rest⟩ =
        some (id.toList, ⟨column + 1 + 1 + id.toList.length, rest⟩) :=
    readName?_append isName ends
  refine ⟨⟨type, id, column⟩, column + 1 + 1 + id.toList.length, ?_, rfl⟩
  simp only [PolicyToken.read, word, typeOfWord?, PolicyType.ofLetter?_letter,
    Cursor.skipSpaces_space, Cursor.skipSpaces_of_head? isName.head?_ne_space, nameRead,
    String.ofList_toList]

end PolicyToken

namespace PolicyList

/-- Written policies are read, up to the end of the line, as tokens that say them. -/
theorem readTokens_pairs
    (column : Nat)
    {pairs : List (PolicyType × String)}
    (names : ∀ pair ∈ pairs, IsName pair.2.toList) :
    ∃ tokens final,
      readTokens ⟨column, pairs.flatMap fun pair => ' ' :: Policies.pairCharacters pair⟩ =
          .ok (tokens, ⟨final, []⟩) ∧
        tokens.map (fun token => (token.type, token.id)) = pairs := by
  induction pairs generalizing column with
  | nil => exact ⟨[], column, readTokens_of_atEnd rfl, rfl⟩
  | cons pair others inductionHypothesis =>
      have shape :
          ((pair :: others).flatMap fun pair => ' ' :: Policies.pairCharacters pair) =
            ' ' :: (Policies.pairCharacters pair ++
              others.flatMap fun pair => ' ' :: Policies.pairCharacters pair) := by
        simp
      have ends :
          EndsName (others.flatMap fun pair => ' ' :: Policies.pairCharacters pair) := by
        have lineEnds : EndsName [] := by simp [EndsName]
        have spaced := endsName_spaced Policies.pairCharacters others lineEnds
        rwa [List.append_nil] at spaced
      obtain ⟨token, behind, read, tells⟩ :=
        PolicyToken.read_pair (column + 1) (names pair (by simp)) ends
      obtain ⟨tokens, final, moreRead, moreTell⟩ :=
        inductionHypothesis behind fun other member => names other (by simp [member])
      have skipped :
          Cursor.skipSpaces ⟨column, ' ' :: (Policies.pairCharacters pair ++
              others.flatMap fun pair => ' ' :: Policies.pairCharacters pair)⟩ =
            ⟨column + 1, Policies.pairCharacters pair ++
              others.flatMap fun pair => ' ' :: Policies.pairCharacters pair⟩ := by
        rw [Cursor.skipSpaces_space]
        apply Cursor.skipSpaces_of_head?
        intro space
        exact pair.1.letter_ne_space (Option.some.inj space)
      refine ⟨token :: tokens, final, ?_, by simp [tells, moreTell]⟩
      rw [shape]
      refine readTokens_of_ok ?_ (skipped ▸ read) moreRead
      rw [skipped]
      simp [Cursor.atEnd, Policies.pairCharacters, pair.1.letter_ne_hash]

/-- The written list of policies is read as a list that is accepted and means them. -/
theorem read?_text
    (column : Nat)
    {policies : Policies}
    (present : policies.toList ≠ [])
    (readBack : policies.ReadBack) :
    ∃ list final,
      read? ⟨column, ':' :: ' ' :: policies.text.toList⟩ =
          .ok (some (list, ⟨final, []⟩)) ∧
        ∀ line, list.policies line = .ok policies := by
  have names : ∀ pair ∈ policies.toList, IsName pair.2.toList :=
    fun pair member => (readBack pair member).1
  obtain ⟨tokens, final, read, tell⟩ := readTokens_pairs (column + 1) names
  rw [← Policies.toList_text present] at read
  refine ⟨⟨column, tokens⟩, final, ?_, ?_⟩
  · simp only [read?, Cursor.skip?_cons, read]
  · intro line
    have types : tokens.map PolicyToken.type = policies.toList.map Prod.fst := by
      rw [← tell, List.map_map]
      rfl
    refine policies_eq_ok_iff.mpr ⟨?_, types ▸ policies.nodup_types_toList, ?_⟩
    · rintro rfl
      exact present tell.symm
    · rw [meaning, tell, policies.ofPairs_toList]

end PolicyList

theorem Criterion.unbroken_text
    {criterion : Criterion}
    (readsBack : criterion.test.ReadsBack) :
    Unbroken criterion.text.toList := by
  rw [criterion.toList_text]
  refine .cons criterion.facet.isBlank_letter (.flatMap ?_)
  intro word member
  exact .space (readsBack.unbroken word member)

namespace Rule

/-- What a rule has to be for its line to be read back. -/
structure Writable (rule : Rule) : Prop where
  criteria_ne_nil : rule.isFallback = false → rule.criteria ≠ []
  distinct : (rule.criteria.map Criterion.facet).Nodup
  policies_ne_nil : rule.policies.toList ≠ []
  criteriaReadBack : ∀ criterion ∈ rule.criteria, criterion.test.ReadsBack
  policiesReadBack : rule.policies.ReadBack

theorem writable_of_flaw?
    {rule : Rule}
    (flawless : rule.flaw? = none) :
    rule.Writable := by
  have criteria_ne_nil := Draft.criteria_ne_nil_of_flaw? flawless
  unfold flaw? at flawless
  split at flawless
  · cases flawless
  · split at flawless
    · cases flawless
    · rename_i unrepeated
      split at flawless
      · cases flawless
      · rename_i assigned
        rw [Option.map_eq_none_iff, Option.or_eq_none_iff,
          List.findSome?_eq_none_iff] at flawless
        exact
          { criteria_ne_nil
            distinct := firstRepeat?_eq_none_iff.mp unrepeated
            policies_ne_nil := by simpa [Policies.isEmpty] using assigned
            criteriaReadBack := fun criterion member =>
              IdTest.readsBack_of_unwritableId? (flawless.1 criterion member)
            policiesReadBack := Policies.readBack_of_unwritableId? flawless.2 }

theorem Writable.condition_cases
    {rule : Rule}
    (writable : rule.Writable) :
    rule.condition = .fallback ∨
      ∃ first others, rule.condition = .allOf (first :: others) := by
  cases condition : rule.condition with
  | fallback => exact .inl rfl
  | allOf criteria =>
      have ordinary : rule.isFallback = false := by simp [isFallback, condition]
      have present : criteria ≠ [] := by
        simpa [Rule.criteria, condition] using writable.criteria_ne_nil ordinary
      obtain ⟨first, others, shape⟩ := List.exists_cons_of_ne_nil present
      exact .inr ⟨first, others, congrArg Condition.allOf shape⟩

/-- The written form of the fallback. -/
theorem toList_text_fallback
    {rule : Rule}
    (shape : rule.condition = .fallback) :
    rule.text.toList =
      Statement.fallbackWord ++ ':' :: ' ' :: rule.policies.text.toList := by
  simp only [text, shape, String.toList_append]
  rfl

/-- The written form of a rule that has criteria. -/
theorem toList_text_criteria
    {rule : Rule}
    {first : Criterion}
    {others : List Criterion}
    (shape : rule.condition = .allOf (first :: others)) :
    rule.text.toList =
      first.text.toList ++
        (CriterionToken.furtherCharacters others ++
          ':' :: ' ' :: rule.policies.text.toList) := by
  have separator : " + ".toList = [' ', '+', ' '] := rfl
  have colon : ": ".toList = [':', ' '] := rfl
  simp only [text, shape, String.toList_append, String.toList_intercalate, List.map_cons,
    intercalate_cons_eq_append_flatMap, separator, colon, List.append_assoc,
    List.flatMap_map, List.cons_append, List.nil_append]
  rfl

/-- A writable rule stands on a line that is found again in the text. -/
theorem Writable.isPlain_text
    {rule : Rule}
    (writable : rule.Writable) :
    IsPlain rule.text.toList := by
  have policies := Policies.unbroken_text writable.policies_ne_nil writable.policiesReadBack
  have colon : Unbroken (':' :: ' ' :: rule.policies.text.toList) :=
    .cons (by decide) policies
  rcases writable.condition_cases with condition | ⟨first, others, condition⟩
  · have word : Unbroken Statement.fallbackWord := .of_all (by decide)
    rw [toList_text_fallback condition]
    exact ⟨word.append colon, 'f', rfl, by decide⟩
  · have listed : rule.criteria = first :: others := by simp [Rule.criteria, condition]
    have readBack := writable.criteriaReadBack
    rw [listed] at readBack
    have further : Unbroken (CriterionToken.furtherCharacters others) := by
      apply Unbroken.flatMap
      intro other member
      have otherText := Criterion.unbroken_text (readBack other (List.mem_cons_of_mem _ member))
      exact .space (.cons (by decide) (.space otherText))
    have text := toList_text_criteria condition
    refine ⟨?_, first.facet.letter, ?_, first.facet.letter_begins⟩
    · rw [text]
      exact (Criterion.unbroken_text (readBack first (by simp))).append (further.append colon)
    · rw [text, first.toList_text]
      rfl

end Rule

namespace Clause

/-- Whether a clause assigns policies and is accepted where nothing encloses it. -/
def Accepted : Clause → Prop
  | fallback list => ∃ policies, ∀ line, list.policies line = .ok policies
  | criteria tokens list? =>
      (∃ criteria, ∀ line, CriterionToken.extend line [] tokens = .ok criteria) ∧
        ∃ list policies, list? = some list ∧ ∀ line, list.policies line = .ok policies

/-- The rule that a clause gives when it inherits nothing. -/
def rule? (line : Nat) : Clause → Option Rule
  | fallback list => some ⟨.fallback, list.meaning, line⟩
  | criteria tokens list? =>
      Nesting.ruleOf? (tokens.map CriterionToken.meaning) line list?

end Clause

namespace Statement

/-- A statement that is read up to the end of its line is what the line states. -/
theorem ofLine_of_read
    {line : List Char}
    {statement : Statement}
    {final : Nat}
    (plain : IsPlain line)
    (read : Statement.read ⟨1, line⟩ = .ok (statement, ⟨final, []⟩)) :
    ofLine line = .ok statement := by
  obtain ⟨first, begins, notSpace, -, -⟩ := plain.begins
  have present : line.head? ≠ some ' ' := by
    rw [Option.mem_def.mp begins]
    simpa using notSpace
  have start : (Cursor.start line).skipSpaces = ⟨1, line⟩ :=
    Cursor.skipSpaces_of_head? present
  simp only [ofLine, start, read, bind, Except.bind]
  rfl

theorem ofLine_fallback
    {rule : Rule}
    (writable : rule.Writable)
    (shape : rule.condition = .fallback) :
    ∃ list, ofLine rule.text.toList = .ok (.clause (.fallback list)) ∧
      ∀ line, list.policies line = .ok rule.policies := by
  obtain ⟨list, final, listRead, accepted⟩ :=
    PolicyList.read?_text (1 + fallbackWord.length) writable.policies_ne_nil
      writable.policiesReadBack
  have noRanking :
      Cursor.skipWord? ⟨1, fallbackWord ++ ':' :: ' ' :: rule.policies.text.toList⟩
        rankingWord = none := rfl
  have colon : (':' :: ' ' :: rule.policies.text.toList).head? ≠ some ' ' := by simp
  have read :
      Statement.read ⟨1, rule.text.toList⟩ =
        .ok (.clause (.fallback list), ⟨final, []⟩) := by
    rw [Rule.toList_text_fallback shape]
    simp only [Statement.read, noRanking, Cursor.skipWord?_append, readFallback,
      Cursor.skipSpaces_of_head? colon, listRead, bind, Except.bind, pure, Except.pure]
  exact ⟨list, ofLine_of_read writable.isPlain_text read, accepted⟩

theorem ofLine_criteria
    {rule : Rule}
    {first : Criterion}
    {others : List Criterion}
    (writable : rule.Writable)
    (shape : rule.condition = .allOf (first :: others)) :
    ∃ tokens list, ofLine rule.text.toList =
        .ok (.clause (.criteria tokens (some list))) ∧
      (∀ token ∈ tokens, token.Uniform) ∧
        tokens.map CriterionToken.meaning = first :: others ∧
          ∀ line, list.policies line = .ok rule.policies := by
  have criteria : rule.criteria = first :: others := by simp [Rule.criteria, shape]
  have readBack := writable.criteriaReadBack
  rw [criteria] at readBack
  have text := Rule.toList_text_criteria shape
  obtain ⟨token, behindFirst, firstRead, firstUniform, firstMeans⟩ :=
    CriterionToken.read_text .statementExpected 1 (readBack first (by simp))
      (CriterionToken.endsNames_furtherCharacters others (' ' :: rule.policies.text.toList))
  have othersReadBack : ∀ other ∈ others, other.test.ReadsBack :=
    fun other member => readBack other (List.mem_cons_of_mem _ member)
  obtain ⟨tokens, behindCriteria, moreRead, moreUniform, moreMean⟩ :=
    CriterionToken.readMore_texts behindFirst (' ' :: rule.policies.text.toList) othersReadBack
  obtain ⟨list, final, listRead, accepted⟩ :=
    PolicyList.read?_text behindCriteria writable.policies_ne_nil writable.policiesReadBack
  -- A facet letter begins neither of the two words, so the criteria reader gets the line.
  have noWord (word : List Char) (announces : word = rankingWord ∨ word = fallbackWord) :
      Cursor.skipWord? ⟨1, rule.text.toList⟩ word = none := by
    rw [text, first.toList_text]
    rcases announces with same | same
    · exact same ▸ skipWord?_letter.1
    · exact same ▸ skipWord?_letter.2
  have colon : (':' :: ' ' :: rule.policies.text.toList).head? ≠ some ' ' := by simp
  have criteriaRead :
      readCriteria ⟨1, rule.text.toList⟩ =
        .ok (.criteria (token :: tokens) (some list), ⟨final, []⟩) := by
    simp only [readCriteria, text, firstRead, moreRead, Cursor.skipSpaces_of_head? colon,
      listRead, bind, Except.bind, pure, Except.pure]
  have read :
      Statement.read ⟨1, rule.text.toList⟩ =
        .ok (.clause (.criteria (token :: tokens) (some list)), ⟨final, []⟩) := by
    simp only [Statement.read, noWord rankingWord (.inl rfl),
      noWord fallbackWord (.inr rfl), criteriaRead, bind, Except.bind, pure, Except.pure]
  exact
    ⟨token :: tokens, list, ofLine_of_read writable.isPlain_text read,
      List.forall_mem_cons.mpr ⟨firstUniform, moreUniform⟩,
      by simp [firstMeans, moreMean], accepted⟩

/-- The line of a writable rule states an accepted clause that gives the rule. -/
theorem ofLine_text
    {rule : Rule}
    (writable : rule.Writable) :
    ∃ clause, ofLine rule.text.toList = .ok (.clause clause) ∧ clause.Accepted ∧
      ∀ line, clause.rule? line = some { rule with line } := by
  rcases writable.condition_cases with condition | ⟨first, others, condition⟩
  · obtain ⟨list, stated, accepted⟩ := ofLine_fallback writable condition
    obtain ⟨-, -, means⟩ := PolicyList.policies_eq_ok_iff.mp (accepted rule.line)
    refine ⟨.fallback list, stated, ⟨_, accepted⟩, fun line => ?_⟩
    rw [Clause.rule?, ← means, ← condition]
  · obtain ⟨tokens, list, stated, uniform, mean, accepted⟩ :=
      ofLine_criteria writable condition
    obtain ⟨-, -, means⟩ := PolicyList.policies_eq_ok_iff.mp (accepted rule.line)
    have distinct : (tokens.map CriterionToken.facet).Nodup := by
      have facets := writable.distinct
      rw [Rule.criteria, condition] at facets
      rwa [← mean, List.map_map] at facets
    have extended (line : Nat) :
        CriterionToken.extend line [] tokens = .ok (tokens.map CriterionToken.meaning) :=
      CriterionToken.extend_eq_ok_iff.mpr ⟨uniform, distinct, by simp, rfl⟩
    refine ⟨.criteria tokens (some list), stated, ⟨⟨_, extended⟩, list, _, rfl, accepted⟩,
      fun line => ?_⟩
    rw [Clause.rule?, Nesting.ruleOf?, Option.map_some, mean, ← means, ← condition]

end Statement

end LendingRules
