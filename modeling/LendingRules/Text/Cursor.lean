namespace LendingRules

/-!
# Cursors

A cursor stands somewhere in a line: it knows the column of the next character
and the characters from there on. Readers take a cursor and return the one
behind what they read, so that every token knows its column. A cursor reaches
another when moving over some characters leads from the one to the other.

Columns count characters, but a token may also be found by the bytes in front of
it. An offset into the bytes of a line has a column, and wherever a cursor on the
line stands, it has the column of its offset.
-/

/-- A column, counted from one, and the characters from that column on. -/
structure Cursor where
  column : Nat
  rest : List Char
  deriving Repr, DecidableEq

namespace Cursor

/-- The cursor at the beginning of a line. -/
def start (line : List Char) : Cursor where
  column := 1
  rest := line

/-- The characters up to the first that fails a test, and the cursor there. -/
def span (cursor : Cursor) (test : Char → Bool) : List Char × Cursor :=
  let characters := cursor.rest.takeWhile test
  (characters,
    { column := cursor.column + characters.length
      rest := cursor.rest.dropWhile test })

/-- Move over spaces. -/
def skipSpaces (cursor : Cursor) : Cursor :=
  (cursor.span (· = ' ')).2

/-- Move over a given character when it is the next one. -/
def skip? (cursor : Cursor) (character : Char) : Option Cursor :=
  match cursor.rest with
  | [] => none
  | next :: rest =>
      if next = character then some ⟨cursor.column + 1, rest⟩ else none

/-- Move over a given word when the text goes on with it. -/
def skipWord? (cursor : Cursor) (word : List Char) : Option Cursor :=
  if word.isPrefixOf cursor.rest then
    some ⟨cursor.column + word.length, cursor.rest.drop word.length⟩
  else
    none

/-- Whether the line ends here or nothing but a comment follows. -/
def atEnd (cursor : Cursor) : Bool :=
  match cursor.rest with
  | [] => true
  | next :: _ => next = '#'

/-- One cursor leads to another by moving over some characters. -/
def Reaches (first second : Cursor) : Prop :=
  ∃ skipped,
    first.rest = skipped ++ second.rest ∧
      second.column = first.column + skipped.length

namespace Reaches

/-- Every cursor reaches itself. -/
theorem refl (cursor : Cursor) : Reaches cursor cursor :=
  ⟨[], rfl, rfl⟩

/-- Moves may follow one another. -/
theorem trans
    {first second third : Cursor}
    (firstSecond : Reaches first second)
    (secondThird : Reaches second third) :
    Reaches first third := by
  obtain ⟨skipped, restEq, columnEq⟩ := firstSecond
  obtain ⟨more, moreRestEq, moreColumnEq⟩ := secondThird
  refine ⟨skipped ++ more, ?_, ?_⟩
  · rw [restEq, moreRestEq, List.append_assoc]
  · rw [moreColumnEq, columnEq, List.length_append, Nat.add_assoc]

/-- What is left does not grow, and each column moved takes one character. -/
theorem length_add_column
    {first second : Cursor}
    (reaches : Reaches first second) :
    first.rest.length + first.column = second.rest.length + second.column := by
  obtain ⟨skipped, restEq, columnEq⟩ := reaches
  rw [restEq, columnEq, List.length_append]
  omega

/-- Columns do not go back. -/
theorem column_le
    {first second : Cursor}
    (reaches : Reaches first second) :
    first.column ≤ second.column := by
  obtain ⟨skipped, _, columnEq⟩ := reaches
  omega

/-- Moving on by at least one column leaves less to read. -/
theorem length_lt
    {first second : Cursor}
    (moved : Reaches first second ∧ first.column < second.column) :
    second.rest.length < first.rest.length := by
  have := moved.1.length_add_column
  omega

end Reaches

theorem reaches_span (cursor : Cursor) (test : Char → Bool) :
    Reaches cursor (cursor.span test).2 :=
  ⟨cursor.rest.takeWhile test, List.takeWhile_append_dropWhile.symm, rfl⟩

theorem reaches_skipSpaces (cursor : Cursor) : Reaches cursor cursor.skipSpaces :=
  reaches_span cursor _

theorem reaches_of_skip?
    {cursor after : Cursor}
    {character : Char}
    (skipped : cursor.skip? character = some after) :
    Reaches cursor after ∧ cursor.column < after.column := by
  unfold skip? at skipped
  split at skipped
  · simp at skipped
  · rename_i next rest shape
    split at skipped
    · cases skipped
      exact ⟨⟨[next], by simp [shape], rfl⟩, Nat.lt_succ_self _⟩
    · simp at skipped

theorem reaches_of_skipWord?
    {cursor after : Cursor}
    {word : List Char}
    (skipped : cursor.skipWord? word = some after) :
    Reaches cursor after := by
  unfold skipWord? at skipped
  split at skipped
  · rename_i starts
    cases skipped
    obtain ⟨tail, shape⟩ := List.isPrefixOf_iff_prefix.mp starts
    exact ⟨word, by simp [← shape], rfl⟩
  · simp at skipped

/-- Behind the spaces there is no space. -/
theorem head?_skipSpaces (cursor : Cursor) :
    cursor.skipSpaces.rest.head? ≠ some ' ' := by
  intro starts
  have failing := List.head?_dropWhile_not (· = ' ') cursor.rest
  simp only [skipSpaces, span] at starts
  rw [starts] at failing
  simp at failing

end Cursor

/-! Columns by the bytes of a line, where a character takes up to four of them. -/

/-- The bytes of some characters in UTF-8. -/
def utf8Bytes (characters : List Char) : ByteArray :=
  (String.ofList characters).toByteArray

theorem utf8Bytes_append (before behind : List Char) :
    utf8Bytes (before ++ behind) = utf8Bytes before ++ utf8Bytes behind := by
  rw [utf8Bytes, String.ofList_append, String.toByteArray_append]
  rfl

theorem utf8Decode?_utf8Bytes (characters : List Char) :
    (utf8Bytes characters).utf8Decode? = some characters.toArray := by
  rw [utf8Bytes, String.toByteArray_ofList, List.utf8Decode?_utf8Encode]

/--
The characters in front of an offset into the bytes of a line. There are none to
tell when the offset lies inside a character or behind the line.
-/
def charactersBefore? (line : ByteArray) (offset : Nat) : Option (Array Char) :=
  if offset ≤ line.size then (line.extract 0 offset).utf8Decode? else none

/--
The column of an offset into the bytes of a line: the characters in front of it
are counted, or else the bytes.
-/
def columnAt (line : ByteArray) (offset : Nat) : Nat :=
  (charactersBefore? line offset).elim offset Array.size + 1

theorem charactersBefore?_append (before behind : List Char) :
    charactersBefore? (utf8Bytes (before ++ behind)) (utf8Bytes before).size =
      some before.toArray := by
  have within : (utf8Bytes before).size ≤ (utf8Bytes (before ++ behind)).size := by
    rw [utf8Bytes_append, ByteArray.size_append]
    exact Nat.le_add_right _ _
  rw [charactersBefore?, if_pos within, utf8Bytes_append,
    ByteArray.extract_append_eq_left rfl, utf8Decode?_utf8Bytes]

/-- Characters are told in front of the offsets between two characters, and of no others. -/
theorem isSome_charactersBefore?_iff
    {line : List Char}
    {offset : Nat} :
    (charactersBefore? (utf8Bytes line) offset).isSome ↔
      ∃ before behind, line = before ++ behind ∧ offset = (utf8Bytes before).size := by
  constructor
  · intro told
    unfold charactersBefore? at told
    split at told
    · rename_i within
      have between : String.Pos.Raw.IsValid (String.ofList line) ⟨offset⟩ :=
        String.Pos.Raw.isValid_iff_isValidUTF8_extract_zero.mpr
          ⟨within, ByteArray.isSome_utf8Decode?_iff.mp told⟩
      obtain ⟨before, behind, shape, place⟩ := String.Pos.Raw.isValid_iff_exists_append.mp between
      refine ⟨before.toList, behind.toList, ?_, ?_⟩
      · rw [← String.toList_append, ← shape, String.toList_ofList]
      · rw [utf8Bytes, String.ofList_toList]
        exact congrArg String.Pos.Raw.byteIdx place
    · cases told
  · rintro ⟨before, behind, rfl, rfl⟩
    rw [charactersBefore?_append]
    rfl

/-- Between two characters, the column is that of the one behind. -/
theorem columnAt_append (before behind : List Char) :
    columnAt (utf8Bytes (before ++ behind)) (utf8Bytes before).size = before.length + 1 := by
  rw [columnAt, charactersBefore?_append]
  rfl

example : columnAt (utf8Bytes "é: l".toList) 2 = 2 := by decide

namespace Cursor

/-- How many bytes of a line are in front of a cursor on it. -/
def offsetIn (cursor : Cursor) (line : List Char) : Nat :=
  (utf8Bytes line).size - (utf8Bytes cursor.rest).size

/-- A cursor on a line has the column of its offset into the bytes of the line. -/
theorem Reaches.columnAt_offsetIn
    {line : List Char}
    {cursor : Cursor}
    (reaches : (start line).Reaches cursor) :
    columnAt (utf8Bytes line) (cursor.offsetIn line) = cursor.column := by
  obtain ⟨skipped, shape, column⟩ := reaches
  change line = skipped ++ cursor.rest at shape
  subst shape
  have offset : cursor.offsetIn (skipped ++ cursor.rest) = (utf8Bytes skipped).size := by
    rw [offsetIn, utf8Bytes_append, ByteArray.size_append, Nat.add_sub_cancel_right]
  rw [offset, columnAt_append, column, Nat.add_comm]
  rfl

end Cursor

end LendingRules
