import LendingRules.Proofs.Grammar.Positions
import LendingRules.Proofs.Writing.Names

namespace LendingRules

/-!
# Names are taken from their lines as they stand

What a clause says of ids it takes from names on its line: the names of its
criteria, with or without an exclamation mark, and the ids of its policies. Each
of them is a whole name, so that a space, a colon or the end of the line comes
next.
-/

/-- A name that stands on a line, up to where no character would continue it. -/
structure IsNameOn (line word : List Char) : Prop where
  isName : IsName word
  stands : ∃ before rest, line = before ++ (word ++ rest) ∧ EndsName rest

namespace IsNameOn

variable {line word : List Char}

/-- A name on the end of a line is one on the line. -/
theorem further
    (isNameOn : IsNameOn line word)
    (passed : List Char) :
    IsNameOn (passed ++ line) word := by
  obtain ⟨before, rest, shape, ends⟩ := isNameOn.stands
  refine ⟨isNameOn.isName, passed ++ before, rest, ?_, ends⟩
  rw [shape, List.append_assoc]

theorem subset (isNameOn : IsNameOn line word) : word ⊆ line := by
  obtain ⟨before, rest, rfl, -⟩ := isNameOn.stands
  exact fun character member => by simp [member]

end IsNameOn

/-- A name token that says what a name on the line says. -/
def NameToken.TakenFrom (line : List Char) (token : NameToken) : Prop :=
  ∃ word, IsNameOn line word ∧ saidBy word = token.said

/-- A criterion token with a name, all of whose names are taken from the line. -/
def CriterionToken.TakenFrom (line : List Char) (token : CriterionToken) : Prop :=
  token.names ≠ [] ∧ ∀ name ∈ token.names, name.TakenFrom line

/-- A policy token whose id is a name on the line. -/
def PolicyToken.TakenFrom (line : List Char) (token : PolicyToken) : Prop :=
  IsNameOn line token.id.toList

/-- A policy list all of whose ids are taken from the line. -/
def PolicyList.TakenFrom (line : List Char) (list : PolicyList) : Prop :=
  ∀ token ∈ list.tokens, token.TakenFrom line

/-- A clause all of whose names and ids are taken from the line. -/
def Clause.TakenFrom (line : List Char) : Clause → Prop
  | fallback list => list.TakenFrom line
  | criteria tokens list? =>
      (∀ token ∈ tokens, token.TakenFrom line) ∧ ∀ list ∈ list?, list.TakenFrom line

section Phrases

variable {Value : Type} {Phrase : Cursor → Value → Cursor → Prop}
variable {Taken : List Char → Value → Prop}

/-- Whether phrases move on and take their values from what they stand in front of. -/
structure Takes
    (Phrase : Cursor → Value → Cursor → Prop)
    (Taken : List Char → Value → Prop) : Prop where
  moves : ∀ {cursor value after}, Phrase cursor value after → cursor.Reaches after
  takes : ∀ {cursor value after}, Phrase cursor value after → Taken cursor.rest value
  further : ∀ {line value}, Taken line value → ∀ passed, Taken (passed ++ line) value

namespace Takes

/-- What is taken further on is taken from here as well. -/
theorem of_reaches
    {cursor here : Cursor}
    {value : Value}
    (takes : Takes Phrase Taken)
    (reached : cursor.Reaches here)
    (taken : Taken here.rest value) :
    Taken cursor.rest value := by
  obtain ⟨passed, shape, -⟩ := reached
  rw [shape]
  exact takes.further taken passed

theorem spaced (takes : Takes Phrase Taken) : Takes (Spaced Phrase) Taken where
  moves := by
    rintro cursor value after ⟨spaces, phrase⟩
    exact spaces.reaches.trans (takes.moves phrase)
  takes := by
    rintro cursor value after ⟨spaces, phrase⟩
    exact takes.of_reaches spaces.reaches (takes.takes phrase)
  further := takes.further

theorem behind (takes : Takes Phrase Taken) (sign : Char) :
    Takes (Behind sign Phrase) Taken where
  moves := by
    rintro cursor value after ⟨before, passes, spaces, phrase⟩
    have reached := (before.reaches.trans passes.reaches).trans spaces.reaches
    exact reached.trans (takes.moves phrase)
  takes := by
    rintro cursor value after ⟨before, passes, spaces, phrase⟩
    have reached := (before.reaches.trans passes.reaches).trans spaces.reaches
    exact takes.of_reaches reached (takes.takes phrase)
  further := takes.further

theorem repeats (takes : Takes Phrase Taken) :
    Takes (Repeats Phrase) fun line values => ∀ value ∈ values, Taken line value where
  moves := by
    intro cursor values after derives
    induction derives with
    | nil => exact .refl _
    | cons first others inductionHypothesis =>
        exact (takes.moves first).trans inductionHypothesis
  takes := by
    intro cursor values after derives
    induction derives with
    | nil => simp
    | cons first others inductionHypothesis =>
        refine List.forall_mem_cons.mpr ⟨takes.takes first, fun value member => ?_⟩
        exact takes.of_reaches (takes.moves first) (inductionHypothesis value member)
  further := fun taken passed value member => takes.further (taken value member) passed

/-- A phrase and then ones in a row are taken together. -/
theorem cons
    {FurtherPhrase : Cursor → Value → Cursor → Prop}
    {cursor behind after : Cursor}
    {value : Value}
    {values : List Value}
    (takes : Takes Phrase Taken)
    (furtherTakes : Takes FurtherPhrase Taken)
    (first : Phrase cursor value behind)
    (others : Repeats FurtherPhrase behind values after) :
    cursor.Reaches after ∧ ∀ other ∈ value :: values, Taken cursor.rest other := by
  have moved := takes.moves first
  refine ⟨moved.trans (furtherTakes.repeats.moves others), ?_⟩
  refine List.forall_mem_cons.mpr ⟨takes.takes first, fun other member => ?_⟩
  exact takes.of_reaches moved (furtherTakes.repeats.takes others other member)

end Takes

end Phrases

theorem Cursor.PassesName.isNameOn
    {cursor after : Cursor}
    {name : List Char}
    (passes : cursor.PassesName name after) :
    IsNameOn cursor.rest name :=
  ⟨passes.isName, [], after.rest, passes.passes.rest, passes.ends⟩

theorem NameToken.takes_derives : Takes NameToken.Derives NameToken.TakenFrom where
  moves := by
    rintro cursor token after ⟨passes⟩
    exact passes.passes.reaches
  takes := by
    rintro cursor token after ⟨passes⟩
    exact ⟨_, passes.isNameOn, (said_ofCharacters _ _).symm⟩
  further := by
    rintro line token ⟨word, isNameOn, said⟩ passed
    exact ⟨word, isNameOn.further passed, said⟩

/-- What is taken together with the letter of a criterion. -/
theorem CriterionToken.Derives.taken
    {cursor after : Cursor}
    {token : CriterionToken}
    (derives : Derives cursor token after) :
    cursor.Reaches after ∧ token.TakenFrom cursor.rest := by
  obtain ⟨⟨letter, -⟩, first, others⟩ := derives
  have spaced := NameToken.takes_derives.spaced
  obtain ⟨moved, names⟩ := spaced.cons spaced first others
  refine ⟨letter.reaches.trans moved, List.cons_ne_nil _ _, fun name member => ?_⟩
  exact spaced.of_reaches letter.reaches (names name member)

theorem CriterionToken.takes_derives :
    Takes CriterionToken.Derives CriterionToken.TakenFrom where
  moves := fun derives => derives.taken.1
  takes := fun derives => derives.taken.2
  further := by
    rintro line token ⟨present, names⟩ passed
    exact ⟨present, fun name member =>
      NameToken.takes_derives.further (names name member) passed⟩

theorem PolicyToken.takes_derives : Takes PolicyToken.Derives PolicyToken.TakenFrom where
  moves := by
    rintro cursor token after ⟨letter, spaces, passes⟩
    exact (letter.reaches.trans spaces.reaches).trans passes.passes.reaches
  takes := by
    rintro cursor token after ⟨letter, spaces, passes⟩
    obtain ⟨passed, shape, -⟩ := letter.reaches.trans spaces.reaches
    rw [PolicyToken.TakenFrom, String.toList_ofList, shape]
    exact passes.isNameOn.further passed
  further := fun taken passed => IsNameOn.further taken passed

theorem PolicyList.Derives.taken
    {cursor after : Cursor}
    {list : PolicyList}
    (derives : Derives cursor list after) :
    cursor.Reaches after ∧ list.TakenFrom cursor.rest := by
  obtain ⟨colon, policies⟩ := derives
  cases policies with
  | nil spaces => exact ⟨colon.reaches.trans spaces.reaches, by simp [TakenFrom]⟩
  | cons spaces first others =>
      have takes := PolicyToken.takes_derives
      obtain ⟨moved, tokens⟩ := takes.cons takes.spaced first others
      have reached := colon.reaches.trans spaces.reaches
      exact ⟨reached.trans moved, fun token member =>
        takes.of_reaches reached (tokens token member)⟩

theorem PolicyList.takes_derives : Takes PolicyList.Derives PolicyList.TakenFrom where
  moves := fun derives => derives.taken.1
  takes := fun derives => derives.taken.2
  further := fun taken passed token member => (taken token member).further passed

/-- The clause that a line derives takes its names and ids from the line. -/
theorem Statement.DerivesLine.takenFrom
    {line : List Char}
    {clause : Clause}
    (derives : DerivesLine line (.clause clause)) :
    clause.TakenFrom line := by
  obtain ⟨indent, states, -, -⟩ := derives
  have criteria := CriterionToken.takes_derives
  have policies := PolicyList.takes_derives
  cases states with
  | fallback word spaces list =>
      have reached := (indent.reaches.trans word.reaches).trans spaces.reaches
      exact policies.of_reaches reached (policies.takes list)
  | header first others =>
      obtain ⟨-, tokens⟩ := criteria.cons (criteria.behind '+') first others
      exact ⟨fun token member => criteria.of_reaches indent.reaches (tokens token member),
        by simp⟩
  | rule first others spaces list =>
      obtain ⟨moved, tokens⟩ := criteria.cons (criteria.behind '+') first others
      refine ⟨fun token member => criteria.of_reaches indent.reaches (tokens token member), ?_⟩
      intro other given
      cases Option.mem_def.mp given
      have reached := (indent.reaches.trans moved).trans spaces.reaches
      exact policies.of_reaches reached (policies.takes list)

end LendingRules
