import LendingRules.Proofs.Reading.Readers

namespace LendingRules

/-!
# Written names read back

A reader that meets the written form of a token returns that token and stands
behind it, wherever on the line that is. So each fact here is about any column
and any rest of the line that does not continue the token.
-/

/-- Whatever is written with a space in front ends a name before it. -/
theorem endsName_spaced
    {Element : Type}
    (written : Element → List Char)
    (elements : List Element)
    {rest : List Char}
    (ends : EndsName rest) :
    EndsName (elements.flatMap (fun element => ' ' :: written element) ++ rest) := by
  cases elements with
  | nil => exact ends
  | cons element others => exact endsName_space _

namespace NameToken

/-- What a name token says: the id, and whether it is negated. -/
def said (token : NameToken) : String × Bool :=
  (token.name, token.negated)

/-- What a word says when it is read as a name. -/
def saidBy (word : List Char) : String × Bool :=
  (ofCharacters 0 word).said

theorem said_ofCharacters (column : Nat) (word : List Char) :
    (ofCharacters column word).said = saidBy word := by
  unfold saidBy ofCharacters
  split <;> rfl

variable {rest : List Char}

theorem read_spaced
    (column : Nat)
    {word : List Char}
    (isName : IsName word)
    (ends : EndsName rest) :
    ∃ token final,
      NameToken.read ⟨column, ' ' :: (word ++ rest)⟩ = .ok (token, ⟨final, rest⟩) ∧
        token.said = saidBy word := by
  refine ⟨ofCharacters (column + 1) word, column + 1 + word.length, ?_,
    said_ofCharacters _ _⟩
  simp only [NameToken.read, Cursor.skip?_cons,
    Cursor.skipSpaces_of_head? isName.head?_ne_space, readName?_append isName ends]

/-- The rest of a line in which no further name follows. -/
def EndsNames (rest : List Char) : Prop :=
  EndsName rest ∧ ∀ column, ∃ fault, NameToken.read ⟨column, rest⟩ = .error fault

/-- Words, each behind a space, are read as names up to where no name follows. -/
theorem readMore_spaced
    (column : Nat)
    {words : List (List Char)}
    (names : ∀ word ∈ words, IsName word)
    (ends : EndsNames rest) :
    ∃ tokens final,
      readMore ⟨column, words.flatMap (fun word => ' ' :: word) ++ rest⟩ =
          (tokens, ⟨final, rest⟩) ∧
        tokens.map said = words.map saidBy := by
  induction words generalizing column with
  | nil =>
      obtain ⟨fault, failed⟩ := ends.2 column
      exact ⟨[], column, readMore_of_error failed, rfl⟩
  | cons word others inductionHypothesis =>
      have wordEnds :
          EndsName (others.flatMap (fun word => ' ' :: word) ++ rest) :=
        endsName_spaced (fun word => word) others ends.1
      obtain ⟨token, behind, read, said⟩ :=
        read_spaced column (names word (by simp)) wordEnds
      obtain ⟨tokens, final, readOthers, saidOthers⟩ :=
        inductionHypothesis behind fun other member => names other (by simp [member])
      refine ⟨token :: tokens, final, ?_, by simp [said, saidOthers]⟩
      have shape :
          (word :: others).flatMap (fun word => ' ' :: word) ++ rest =
            ' ' :: (word ++ (others.flatMap (fun word => ' ' :: word) ++ rest)) := by
        simp
      rw [shape, readMore_of_ok read, readOthers]

end NameToken

end LendingRules
