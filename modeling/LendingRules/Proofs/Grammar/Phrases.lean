import LendingRules.Document.Basic
import LendingRules.Proofs.Reading.Readers

namespace LendingRules

/-!
# The grammar of rule text

The phrases of rule text, by what they are made of rather than by how they are
read. A phrase stands between two cursors for a value, and so the columns of all
tokens belong to it. Phrases may be ambiguous in themselves: how far a list goes
on is only settled by what has to follow it.
-/

namespace Cursor

/-- The characters from one cursor to another are those of a word. -/
structure Passes (cursor : Cursor) (word : List Char) (after : Cursor) : Prop where
  rest : cursor.rest = word ++ after.rest
  column : after.column = cursor.column + word.length

/-- Spaces, or nothing at all. -/
def Spaces (cursor after : Cursor) : Prop :=
  ∃ count, cursor.Passes (List.replicate count ' ') after

/-- One space or more. -/
def SomeSpaces (cursor after : Cursor) : Prop :=
  ∃ count, cursor.Passes (List.replicate (count + 1) ' ') after

/-- A name: it runs up to where no character continues it. -/
structure PassesName (cursor : Cursor) (name : List Char) (after : Cursor) : Prop where
  isName : IsName name
  passes : cursor.Passes name after
  ends : EndsName after.rest

end Cursor

section Combinations

variable {Value : Type}

/-- Phrases of one kind in a row, any number of them. -/
inductive Repeats (Phrase : Cursor → Value → Cursor → Prop) :
    Cursor → List Value → Cursor → Prop
  | nil {cursor : Cursor} : Repeats Phrase cursor [] cursor
  | cons
      {cursor behind after : Cursor}
      {value : Value}
      {values : List Value}
      (first : Phrase cursor value behind)
      (others : Repeats Phrase behind values after) :
      Repeats Phrase cursor (value :: values) after

/-- A phrase behind one space or more. -/
inductive Spaced (Phrase : Cursor → Value → Cursor → Prop) :
    Cursor → Value → Cursor → Prop
  | spaced
      {cursor here after : Cursor}
      {value : Value}
      (spaces : cursor.SomeSpaces here)
      (phrase : Phrase here value after) :
      Spaced Phrase cursor value after

/-- A phrase behind a sign, with spaces around the sign or without. -/
inductive Behind (sign : Char) (Phrase : Cursor → Value → Cursor → Prop) :
    Cursor → Value → Cursor → Prop
  | behind
      {cursor mark passed here after : Cursor}
      {value : Value}
      (before : cursor.Spaces mark)
      (passes : mark.Passes [sign] passed)
      (spaces : passed.Spaces here)
      (phrase : Phrase here value after) :
      Behind sign Phrase cursor value after

end Combinations

/-- The letter of a facet, not followed by a character that makes it part of a word. -/
inductive LetterToken.Derives : Cursor → LetterToken → Cursor → Prop
  | letter
      {cursor after : Cursor}
      {facet : Facet}
      (passes : cursor.Passes [facet.letter] after)
      (alone : ∀ next ∈ after.rest.head?, isWordCharacter next = false) :
      Derives cursor ⟨facet, cursor.column⟩ after

/-- A further letter in a list: behind a comma, or behind spaces alone. -/
inductive LetterToken.DerivesFurther : Cursor → LetterToken → Cursor → Prop
  | comma
      {cursor after : Cursor}
      {letter : LetterToken}
      (phrase : Behind ',' Derives cursor letter after) :
      DerivesFurther cursor letter after
  | spaces
      {cursor after : Cursor}
      {letter : LetterToken}
      (phrase : Spaced Derives cursor letter after) :
      DerivesFurther cursor letter after

/-- A list of letters; an empty one begins where a letter would have to. -/
inductive LetterList.Derives : Cursor → LetterList → Cursor → Prop
  | empty
      {cursor : Cursor}
      (present : cursor.rest.head? ≠ some ' ') :
      Derives cursor ⟨cursor.column, []⟩ cursor
  | letters
      {cursor behind after : Cursor}
      {letter : LetterToken}
      {letters : List LetterToken}
      (first : LetterToken.Derives cursor letter behind)
      (others : Repeats LetterToken.DerivesFurther behind letters after) :
      Derives cursor ⟨cursor.column, letter :: letters⟩ after

/-- A ranking key. -/
inductive RankingItem.Derives : Cursor → RankingItem → Cursor → Prop
  | criteriaCount
      {cursor after : Cursor}
      (word : cursor.Passes "number-of-criteria".toList after) :
      Derives cursor ⟨cursor.column, .criteriaCount⟩ after
  | firstLine
      {cursor after : Cursor}
      (word : cursor.Passes "first-line".toList after) :
      Derives cursor ⟨cursor.column, .line .firstLine⟩ after
  | lastLine
      {cursor after : Cursor}
      (word : cursor.Passes "last-line".toList after) :
      Derives cursor ⟨cursor.column, .line .lastLine⟩ after
  | precedence
      {cursor behindWord opening opened here behind closing after : Cursor}
      {list : LetterList}
      (word : cursor.Passes "criterium".toList behindWord)
      (before : behindWord.Spaces opening)
      (opens : opening.Passes ['('] opened)
      (spaces : opened.Spaces here)
      (letters : LetterList.Derives here list behind)
      (further : behind.Spaces closing)
      (closes : closing.Passes [')'] after) :
      Derives cursor ⟨cursor.column, .precedence list⟩ after

/-- The items of a ranking line: keys, or a bare list of letters. -/
inductive RankingItem.DeriveAll : Cursor → List RankingItem → Cursor → Prop
  | keys
      {cursor behind after : Cursor}
      {item : RankingItem}
      {items : List RankingItem}
      (first : Derives cursor item behind)
      (others : Repeats (Behind ',' Derives) behind items after) :
      DeriveAll cursor (item :: items) after
  | letters
      {cursor after : Cursor}
      {list : LetterList}
      (letters : LetterList.Derives cursor list after) :
      DeriveAll cursor [⟨list.column, .letters list⟩] after

/-- A name as a token of a criterion. -/
inductive NameToken.Derives : Cursor → NameToken → Cursor → Prop
  | name
      {cursor after : Cursor}
      {name : List Char}
      (passes : cursor.PassesName name after) :
      Derives cursor (.ofCharacters cursor.column name) after

/-- A criterion: a letter and one name or more, each behind spaces. -/
inductive CriterionToken.Derives : Cursor → CriterionToken → Cursor → Prop
  | criterion
      {cursor behind further after : Cursor}
      {letter : LetterToken}
      {name : NameToken}
      {names : List NameToken}
      (begins : LetterToken.Derives cursor letter behind)
      (first : Spaced NameToken.Derives behind name further)
      (others : Repeats (Spaced NameToken.Derives) further names after) :
      Derives cursor ⟨letter.facet, letter.column, name :: names⟩ after

/-- A policy: the letter of a type, spaces, and a name. -/
inductive PolicyToken.Derives : Cursor → PolicyToken → Cursor → Prop
  | policy
      {cursor behind here after : Cursor}
      {type : PolicyType}
      {name : List Char}
      (letter : cursor.Passes [type.letter] behind)
      (spaces : behind.SomeSpaces here)
      (passes : here.PassesName name after) :
      Derives cursor ⟨type, String.ofList name, cursor.column⟩ after

/-- The policies of a list, possibly none. -/
inductive PolicyList.DeriveTokens : Cursor → List PolicyToken → Cursor → Prop
  | nil
      {cursor after : Cursor}
      (spaces : cursor.Spaces after) :
      DeriveTokens cursor [] after
  | cons
      {cursor here behind after : Cursor}
      {token : PolicyToken}
      {tokens : List PolicyToken}
      (spaces : cursor.Spaces here)
      (first : PolicyToken.Derives here token behind)
      (others : Repeats (Spaced PolicyToken.Derives) behind tokens after) :
      DeriveTokens cursor (token :: tokens) after

/-- A colon and the policies behind it. -/
inductive PolicyList.Derives : Cursor → PolicyList → Cursor → Prop
  | list
      {cursor behind after : Cursor}
      {tokens : List PolicyToken}
      (colon : cursor.Passes [':'] behind)
      (policies : DeriveTokens behind tokens after) :
      Derives cursor ⟨cursor.column, tokens⟩ after

/-- A statement from its first character on. -/
inductive Statement.Derives : Cursor → Statement → Cursor → Prop
  | ranking
      {cursor behindWord colon behindColon here after : Cursor}
      {items : List RankingItem}
      (word : cursor.Passes "priority".toList behindWord)
      (before : behindWord.Spaces colon)
      (sign : colon.Passes [':'] behindColon)
      (spaces : behindColon.Spaces here)
      (lists : RankingItem.DeriveAll here items after) :
      Derives cursor (.ranking items) after
  | fallback
      {cursor behindWord here after : Cursor}
      {list : PolicyList}
      (word : cursor.Passes "fallback-policy".toList behindWord)
      (spaces : behindWord.Spaces here)
      (policies : PolicyList.Derives here list after) :
      Derives cursor (.clause (.fallback list)) after
  | header
      {cursor behind after : Cursor}
      {token : CriterionToken}
      {tokens : List CriterionToken}
      (first : CriterionToken.Derives cursor token behind)
      (others : Repeats (Behind '+' CriterionToken.Derives) behind tokens after) :
      Derives cursor (.clause (.criteria (token :: tokens) none)) after
  | rule
      {cursor behind further here after : Cursor}
      {token : CriterionToken}
      {tokens : List CriterionToken}
      {list : PolicyList}
      (first : CriterionToken.Derives cursor token behind)
      (others : Repeats (Behind '+' CriterionToken.Derives) behind tokens further)
      (spaces : further.Spaces here)
      (policies : PolicyList.Derives here list after) :
      Derives cursor (.clause (.criteria (token :: tokens) (some list))) after

/-- A line: a statement with spaces around it, and a comment behind it or none. -/
inductive Statement.DerivesLine : List Char → Statement → Prop
  | line
      {line : List Char}
      {here behind last : Cursor}
      {statement : Statement}
      (indent : (Cursor.start line).Spaces here)
      (states : Derives here statement behind)
      (spaces : behind.Spaces last)
      (ends : last.rest = [] ∨ ∃ comment, last.rest = '#' :: comment) :
      DerivesLine line statement

end LendingRules
