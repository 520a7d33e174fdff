import LendingRules.Statement.Basic
import LendingRules.Text.Alphanumeric
import LendingRules.Text.Cursor

namespace LendingRules

/-!
# Letters and names

Readers of the smallest tokens. A facet letter stands alone: a letter, a digit,
a hyphen or an underscore behind it makes it part of a word. A name runs up to
the next space or colon and starts with none of the characters that begin
another token.
-/

/-- Whether a character would make a letter before it part of a word. -/
def isWordCharacter (character : Char) : Bool :=
  isAlphanumeric character || character = '-' || character = '_'

/-- Whether a name may begin with a character. -/
def beginsName (character : Char) : Bool :=
  character ≠ ' ' && character ≠ ':' && character ≠ '+' && character ≠ '#'

/-- Whether a name may go on with a character. -/
def continuesName (character : Char) : Bool :=
  character ≠ ' ' && character ≠ ':'

namespace LetterToken

/--
Read a facet letter. When there is none the result is the column at fault: that
of the missing letter, or the one behind a letter that is part of a word.
-/
def read (cursor : Cursor) : Except Nat (LetterToken × Cursor) :=
  match cursor.rest with
  | [] => .error cursor.column
  | letter :: rest =>
      match Facet.ofLetter? letter with
      | none => .error cursor.column
      | some facet =>
          if rest.head?.any isWordCharacter then
            .error (cursor.column + 1)
          else
            .ok (⟨facet, cursor.column⟩, ⟨cursor.column + 1, rest⟩)

/-- A letter takes one character. -/
theorem reaches_of_read
    {cursor after : Cursor}
    {token : LetterToken}
    (read : LetterToken.read cursor = .ok (token, after)) :
    cursor.Reaches after ∧ cursor.column < after.column := by
  unfold LetterToken.read at read
  split at read
  · simp at read
  · rename_i letter rest shape
    split at read
    · simp at read
    · split at read
      · simp at read
      · cases read
        exact ⟨⟨[letter], by simp [shape], rfl⟩, Nat.lt_succ_self _⟩

end LetterToken

/-- Read the characters of a name. -/
def readName? (cursor : Cursor) : Option (List Char × Cursor) :=
  match cursor.rest with
  | [] => none
  | first :: rest =>
      if beginsName first then
        let (others, after) := Cursor.span ⟨cursor.column + 1, rest⟩ continuesName
        some (first :: others, after)
      else
        none

/-- A name takes at least one character. -/
theorem reaches_of_readName?
    {cursor after : Cursor}
    {name : List Char}
    (read : readName? cursor = some (name, after)) :
    cursor.Reaches after ∧ cursor.column < after.column := by
  unfold readName? at read
  split at read
  · simp at read
  · rename_i first rest shape
    split at read
    · cases read
      have moved :=
        Cursor.reaches_span ⟨cursor.column + 1, rest⟩ continuesName
      have step : cursor.Reaches ⟨cursor.column + 1, rest⟩ :=
        ⟨[first], by simp [shape], rfl⟩
      exact ⟨step.trans moved, Nat.lt_of_succ_le moved.column_le⟩
    · simp at read

namespace NameToken

/-- The token of a name: an exclamation mark in front of it negates it. -/
def ofCharacters (column : Nat) : List Char → NameToken
  | '!' :: name => ⟨String.ofList name, true, column⟩
  | name => ⟨String.ofList name, false, column⟩

/--
Read a name that stands behind at least one space. When there is none the
result is the column where a space or the name was expected.
-/
def read (cursor : Cursor) : Except Nat (NameToken × Cursor) :=
  match cursor.skip? ' ' with
  | none => .error cursor.column
  | some spaced =>
      let here := spaced.skipSpaces
      match readName? here with
      | none => .error here.column
      | some (name, after) => .ok (ofCharacters here.column name, after)

/-- A spaced name takes at least one character. -/
theorem reaches_of_read
    {cursor after : Cursor}
    {token : NameToken}
    (read : NameToken.read cursor = .ok (token, after)) :
    cursor.Reaches after ∧ cursor.column < after.column := by
  unfold NameToken.read at read
  split at read
  · simp at read
  · rename_i spaced skipped
    dsimp only at read
    split at read
    · simp at read
    · rename_i name final named
      cases read
      have first := Cursor.reaches_of_skip? skipped
      have second := spaced.reaches_skipSpaces
      have third := reaches_of_readName? named
      refine ⟨(first.1.trans second).trans third.1, ?_⟩
      have := second.column_le
      omega

/-- Read as many further names as there are. -/
def readMore (cursor : Cursor) : List NameToken × Cursor :=
  match read : NameToken.read cursor with
  | .error _ => ([], cursor)
  | .ok (token, after) =>
      have := Cursor.Reaches.length_lt (reaches_of_read read)
      let more := readMore after
      (token :: more.1, more.2)
termination_by cursor.rest.length

theorem reaches_readMore (cursor : Cursor) :
    cursor.Reaches (readMore cursor).2 := by
  fun_induction readMore cursor with
  | case1 => exact .refl _
  | case2 cursor token after read shorter more inductionHypothesis =>
      exact (reaches_of_read read).1.trans inductionHypothesis

end NameToken

end LendingRules
