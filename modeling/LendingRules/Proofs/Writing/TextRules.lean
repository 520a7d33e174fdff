import LendingRules.Proofs.Grammar.NamesOnLines
import LendingRules.Proofs.Reading.TextLines
import LendingRules.Proofs.Rulings.ProperRules

namespace LendingRules

/-!
# Rules of a text can be written

The names on a line without line break and tab are unbroken, and to write what a
name says is to write that name. So the rules of a text are writable, whatever
ids the text has: ids in which other characters are blank, or that hold the signs
of the grammar behind their first character.
-/

namespace NameToken

/-- What a word says tells the word. -/
theorem eq_of_saidBy (word : List Char) :
    word =
      if (saidBy word).2 then '!' :: (saidBy word).1.toList else (saidBy word).1.toList := by
  unfold saidBy ofCharacters said
  split <;> simp

/-- A name token for a word that is an unbroken name. -/
def IsWritten (token : NameToken) : Prop :=
  ∃ word, IsName word ∧ Unbroken word ∧ saidBy word = token.said

/-- Words for all tokens in a row when there is one for each. -/
theorem exists_words
    {names : List NameToken}
    {Holds : List Char → Prop}
    (each : ∀ name ∈ names, ∃ word, Holds word ∧ saidBy word = name.said) :
    ∃ words : List (List Char),
      (∀ word ∈ words, Holds word) ∧ words.map saidBy = names.map said := by
  induction names with
  | nil => exact ⟨[], by simp, rfl⟩
  | cons name others inductionHypothesis =>
      obtain ⟨⟨word, holds, sameSaid⟩, othersEach⟩ := List.forall_mem_cons.mp each
      obtain ⟨words, wordsHold, wordsSaid⟩ := inductionHypothesis othersEach
      refine ⟨word :: words, List.forall_mem_cons.mpr ⟨holds, wordsHold⟩, ?_⟩
      rw [List.map_cons, List.map_cons, sameSaid, wordsSaid]

end NameToken

namespace IdTest

/-- The test that words stand for is written in those words. -/
theorem wordCharacters_ofSaid
    {words : List (List Char)}
    (alike : ∃ negated, ∀ said ∈ words.map NameToken.saidBy, said.2 = negated) :
    (ofSaid (words.map NameToken.saidBy)).wordCharacters = words := by
  by_cases lone : words.map NameToken.saidBy = [("all", false)]
  · obtain ⟨word, others, rfl, said, none⟩ := List.map_eq_cons_iff.mp lone
    obtain rfl := List.map_eq_nil_iff.mp none
    rw [lone, NameToken.eq_of_saidBy word, said]
    rfl
  · obtain ⟨negated, alike⟩ := alike
    have spelled :
        words =
          words.map fun word =>
            if negated then '!' :: (NameToken.saidBy word).1.toList
            else (NameToken.saidBy word).1.toList := by
      refine (List.map_id words).symm.trans (List.map_congr_left fun word member => ?_)
      rw [← alike _ (List.mem_map_of_mem member)]
      exact NameToken.eq_of_saidBy word
    rw [ofSaid_of_not_lone_all lone]
    cases words with
    | nil => rfl
    | cons word others =>
        have any :
            ((word :: others).map NameToken.saidBy).any Prod.snd = negated := by
          cases negated with
          | true => simp [alike (NameToken.saidBy word) (by simp)]
          | false => simpa using alike
        rw [any]
        conv => rhs; rw [spelled]
        cases negated with
        | true =>
            simp [wordCharacters, IdTest.words, List.map_map, Function.comp_def]
        | false =>
            simp [wordCharacters, IdTest.words, List.map_map, Function.comp_def]

/-- The test that unbroken names stand for reads back. -/
theorem readsBack_ofSaid
    {words : List (List Char)}
    (written : ∀ word ∈ words, IsName word ∧ Unbroken word)
    (present : words ≠ [])
    (alike : ∃ negated, ∀ said ∈ words.map NameToken.saidBy, said.2 = negated) :
    (ofSaid (words.map NameToken.saidBy)).ReadsBack := by
  have same := wordCharacters_ofSaid alike
  constructor
  case names =>
    rw [same]
    exact fun word member => (written word member).1
  case unbroken =>
    rw [same]
    exact fun word member => (written word member).2
  case present =>
    rw [same]
    exact present
  case alike =>
    rw [same]
    exact alike
  case means => rw [same]

end IdTest

namespace CriterionToken

/-- A criterion token with a name, all of whose names are written. -/
def IsWritten (token : CriterionToken) : Prop :=
  token.names ≠ [] ∧ ∀ name ∈ token.names, name.IsWritten

/-- What all names of a uniform token say about negation. -/
theorem Uniform.exists_negated
    {token : CriterionToken}
    (uniform : token.Uniform)
    (present : token.names ≠ []) :
    ∃ negated, ∀ said ∈ token.names.map NameToken.said, said.2 = negated := by
  obtain ⟨name, member⟩ := List.exists_mem_of_ne_nil _ present
  refine ⟨name.negated, fun said listed => ?_⟩
  obtain ⟨other, otherMember, rfl⟩ := List.mem_map.mp listed
  exact uniform other otherMember name member

/-- What an accepted token with written names means reads back. -/
theorem readsBack_meaning
    {token : CriterionToken}
    (written : token.IsWritten)
    (uniform : token.Uniform) :
    token.meaning.test.ReadsBack := by
  obtain ⟨present, namesWritten⟩ := written
  obtain ⟨words, wordsWritten, said⟩ :=
    NameToken.exists_words fun name member => by
      obtain ⟨word, isName, unbroken, said⟩ := namesWritten name member
      exact ⟨word, (⟨isName, unbroken⟩ : IsName word ∧ Unbroken word), said⟩
  rw [token.meaning_eq, ← said]
  apply IdTest.readsBack_ofSaid wordsWritten
  · rintro rfl
    exact present (List.map_eq_nil_iff.mp said.symm)
  · rw [said]
    exact uniform.exists_negated present

end CriterionToken

/-- A policy token whose id is an unbroken name. -/
def PolicyToken.IsWritten (token : PolicyToken) : Prop :=
  IsName token.id.toList ∧ Unbroken token.id.toList

namespace PolicyList

/-- A policy list all of whose ids are written. -/
def IsWritten (list : PolicyList) : Prop :=
  ∀ token ∈ list.tokens, token.IsWritten

/-- What an accepted list with written ids assigns reads back. -/
theorem readBack_meaning
    {list : PolicyList}
    (written : list.IsWritten)
    (distinct : (list.tokens.map PolicyToken.type).Nodup) :
    list.meaning.ReadBack := by
  rintro ⟨type, id⟩ member
  have assigned := Policies.mem_toList.mp member
  obtain ⟨token, listed, -, rfl⟩ := (assigns_meaning distinct type id).mp assigned
  exact written token listed

end PolicyList

/-- A clause all of whose names and ids are written. -/
def Clause.IsWritten : Clause → Prop
  | fallback list => list.IsWritten
  | criteria tokens list? =>
      (∀ token ∈ tokens, token.IsWritten) ∧ ∀ list ∈ list?, list.IsWritten

/-- What is taken from an unbroken line is written. -/
theorem Clause.isWritten_of_takenFrom
    {line : List Char}
    {clause : Clause}
    (unbroken : Unbroken line)
    (taken : clause.TakenFrom line) :
    clause.IsWritten := by
  have whole {word : List Char} (isNameOn : IsNameOn line word) : Unbroken word :=
    fun character member => unbroken character (isNameOn.subset member)
  have name {token : NameToken} (taken : token.TakenFrom line) : token.IsWritten := by
    obtain ⟨word, isNameOn, said⟩ := taken
    exact ⟨word, isNameOn.isName, whole isNameOn, said⟩
  have list {list : PolicyList} (taken : list.TakenFrom line) : list.IsWritten :=
    fun token member => ⟨(taken token member).isName, whole (taken token member)⟩
  cases clause with
  | fallback policies => exact list taken
  | criteria tokens policies? =>
      refine ⟨fun token member => ?_, fun policies given => list (taken.2 policies given)⟩
      obtain ⟨present, names⟩ := taken.1 token member
      exact ⟨present, fun other listed => name (names other listed)⟩

/-- The clause that an unbroken line states is written. -/
theorem Statement.isWritten_of_ofLine
    {line : List Char}
    {clause : Clause}
    (unbroken : Unbroken line)
    (stated : ofLine line = .ok (.clause clause)) :
    clause.IsWritten :=
  Clause.isWritten_of_takenFrom unbroken (ofLine_eq_ok_iff.mp stated).takenFrom

/-- The lines of a text without tabs and carriage returns are unbroken. -/
theorem unbroken_of_mem_textLines
    {text line : List Char}
    (noTab : '\t' ∉ text)
    (noReturn : '\r' ∉ text)
    (member : line ∈ textLines text) :
    Unbroken line := by
  intro character listed
  obtain ⟨notFeed, inText⟩ := ne_newline_and_mem_of_mem_textLines member listed
  refine ⟨notFeed, ?_, ?_⟩
  · rintro rfl
    exact noReturn inText
  · rintro rfl
    exact noTab inText

/-- What an accepted clause means reads back when it is written. -/
theorem Clause.means_of_isWritten
    {clause : Clause}
    (written : clause.IsWritten) :
    clause.Means (fun criterion => criterion.test.ReadsBack) Policies.ReadBack := by
  cases clause with
  | fallback list => exact PolicyList.readBack_meaning written
  | criteria tokens list? =>
      refine ⟨fun token member => ?_, fun list listed => ?_⟩
      · exact CriterionToken.readsBack_meaning (written.1 token member)
      · exact PolicyList.readBack_meaning (written.2 list listed)

namespace Nesting

variable {nesting last : Nesting}

/-- Whether all criteria of open frames read back. -/
def ReadBack (nesting : Nesting) : Prop :=
  ∀ frame ∈ nesting.frames, ∀ criterion ∈ frame.criteria, criterion.test.ReadsBack

/-- All rules that written entries give read back. -/
theorem ReadBack.addAll
    {entries : List Entry}
    {rules : List Rule}
    (readBack : nesting.ReadBack)
    (written : ∀ entry ∈ entries, entry.clause.IsWritten)
    (added : nesting.addAll entries = .ok (rules, last)) :
    ∀ rule ∈ rules, (∀ criterion ∈ rule.criteria, criterion.test.ReadsBack) ∧
      rule.policies.ReadBack :=
  forall_rules_of_addAll readBack
    (fun entry member => Clause.means_of_isWritten (written entry member)) added

end Nesting

/-- The entries of a text without carriage returns are written. -/
theorem Document.isWritten_of_ofText
    {text : String}
    {document : Document}
    (noReturn : '\r' ∉ text.toList)
    (read : Document.ofText text = .ok document) :
    ∀ entry ∈ document.entries, entry.clause.IsWritten := by
  intro entry member
  have noTab := firstTab?_eq_none_iff.mp (ofText_eq_ok_iff.mp read).1
  obtain ⟨index, line, -, stands, stated, -⟩ := (entry_standsIn read member).stands
  have unbroken := unbroken_of_mem_textLines noTab noReturn (List.mem_of_getElem? stands)
  exact Statement.isWritten_of_ofLine unbroken stated

namespace Rulebook

/-- The rules of a text without carriage returns are writable. -/
theorem writable_of_ofText
    {text : String}
    {rulebook : Rulebook}
    (noReturn : '\r' ∉ text.toList)
    (compiled : ofText text = .ok rulebook) :
    ∀ rule ∈ rulebook.rules, rule.Writable := by
  have made : rulebook.Made := .ofText compiled
  obtain ⟨document, ranking, rules, read, -, resolved, rfl⟩ := ofText_eq_ok_iff.mp compiled
  obtain ⟨last, added, -, -⟩ := Document.rules_eq_ok_iff.mp resolved
  have startReadBack : Nesting.start.ReadBack := by simp [Nesting.ReadBack, Nesting.start]
  intro rule member
  obtain ⟨criteria, policies⟩ :=
    startReadBack.addAll (Document.isWritten_of_ofText noReturn read) added rule member
  have proper := made.proper rule member
  obtain ⟨type, assigned⟩ := proper.assigns
  obtain ⟨id, given⟩ := Option.isSome_iff_exists.mp assigned
  exact
    { criteria_ne_nil := made.soundRules.1.criteria_ne_nil rule member
      distinct := proper.distinct
      policies_ne_nil := List.ne_nil_of_mem (Policies.mem_toList.mpr given)
      criteriaReadBack := criteria
      policiesReadBack := policies }

end Rulebook

end LendingRules
