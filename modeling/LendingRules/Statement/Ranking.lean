import LendingRules.Statement.SyntaxError
import LendingRules.Statement.Token

namespace LendingRules

/-!
# Ranking lines

A ranking line either lists ranking keys, separated by commas, or stands for
its keys by a bare list of letters. Letters are separated by commas or by
spaces alone. A separator that no further item follows is left unread.
-/

namespace LetterToken

/-- Move over what separates two letters. -/
def skipSeparator? (cursor : Cursor) : Option Cursor :=
  match cursor.skipSpaces.skip? ',' with
  | some behindComma => some behindComma.skipSpaces
  | none => (cursor.skip? ' ').map Cursor.skipSpaces

theorem reaches_of_skipSeparator?
    {cursor after : Cursor}
    (skipped : skipSeparator? cursor = some after) :
    cursor.Reaches after := by
  unfold skipSeparator? at skipped
  split at skipped
  · rename_i behindComma commaSkipped
    cases skipped
    exact (cursor.reaches_skipSpaces.trans
      (Cursor.reaches_of_skip? commaSkipped).1).trans
        behindComma.reaches_skipSpaces
  · obtain ⟨space, spaceSkipped, rfl⟩ := Option.map_eq_some_iff.mp skipped
    exact (Cursor.reaches_of_skip? spaceSkipped).1.trans space.reaches_skipSpaces

/-- Read as many further letters as there are. -/
def readMore (cursor : Cursor) : List LetterToken × Cursor :=
  match skipped : skipSeparator? cursor with
  | none => ([], cursor)
  | some here =>
      match read : LetterToken.read here with
      | .error _ => ([], cursor)
      | .ok (token, after) =>
          have : after.rest.length < cursor.rest.length :=
            have separator := reaches_of_skipSeparator? skipped
            have moved := reaches_of_read read
            Cursor.Reaches.length_lt
              ⟨separator.trans moved.1,
                Nat.lt_of_le_of_lt separator.column_le moved.2⟩
          let more := readMore after
          (token :: more.1, more.2)
termination_by cursor.rest.length

theorem reaches_readMore (cursor : Cursor) :
    cursor.Reaches (readMore cursor).2 := by
  fun_induction readMore cursor with
  | case1 => exact .refl _
  | case2 => exact .refl _
  | case3 cursor here skipped token after read shorter more inductionHypothesis =>
      exact ((reaches_of_skipSeparator? skipped).trans
        (reaches_of_read read).1).trans inductionHypothesis

end LetterToken

namespace LetterList

/-- Read a list of letters, possibly without any. -/
def read (cursor : Cursor) : LetterList × Cursor :=
  match LetterToken.read cursor with
  | .error _ => (⟨cursor.column, []⟩, cursor)
  | .ok (first, after) =>
      let more := LetterToken.readMore after
      (⟨cursor.column, first :: more.1⟩, more.2)

theorem reaches_read (cursor : Cursor) : cursor.Reaches (read cursor).2 := by
  unfold read
  split
  · exact .refl cursor
  · rename_i first after firstRead
    exact (LetterToken.reaches_of_read firstRead).1.trans
      (LetterToken.reaches_readMore after)

/-- Read a list of letters between parentheses. -/
def readParenthesized (cursor : Cursor) : Except Fault (LetterList × Cursor) :=
  let here := cursor.skipSpaces
  match here.skip? '(' with
  | none => .error ⟨here.column, .letterListExpected⟩
  | some opened =>
      let list := read opened.skipSpaces
      let behind := list.2.skipSpaces
      match behind.skip? ')' with
      | none => .error ⟨behind.column, .letterListExpected⟩
      | some closed => .ok (list.1, closed)

theorem reaches_of_readParenthesized
    {cursor after : Cursor}
    {list : LetterList}
    (read : readParenthesized cursor = .ok (list, after)) :
    cursor.Reaches after := by
  unfold readParenthesized at read
  dsimp only at read
  split at read
  · simp at read
  · rename_i opened openSkipped
    split at read
    · simp at read
    · rename_i closed closeSkipped
      cases read
      have begins :=
        cursor.reaches_skipSpaces.trans (Cursor.reaches_of_skip? openSkipped).1
      have lists :=
        opened.reaches_skipSpaces.trans (reaches_read opened.skipSpaces)
      exact ((begins.trans lists).trans
        (Cursor.reaches_skipSpaces _)).trans (Cursor.reaches_of_skip? closeSkipped).1

end LetterList

namespace RankingItem

/-- The words of the keys that stand alone. -/
def plainKeys : List (List Char × RankingItemKind) :=
  [("number-of-criteria".toList, .criteriaCount),
    ("first-line".toList, .line .firstLine),
    ("last-line".toList, .line .lastLine)]

/-- The word of the key that lists letters. -/
def precedenceWord : List Char :=
  "criterium".toList

/-- Read one of the keys that stand alone. -/
def readPlain? (cursor : Cursor) : Option (RankingItem × Cursor) :=
  plainKeys.findSome? fun (word, kind) =>
    (cursor.skipWord? word).map fun after => (⟨cursor.column, kind⟩, after)

/-- Read a ranking key, when there is one. -/
def read? (cursor : Cursor) : Except Fault (Option (RankingItem × Cursor)) :=
  match readPlain? cursor with
  | some found => .ok (some found)
  | none =>
      match cursor.skipWord? precedenceWord with
      | none => .ok none
      | some behindWord =>
          match LetterList.readParenthesized behindWord with
          | .error fault => .error fault
          | .ok (list, after) =>
              .ok (some (⟨cursor.column, .precedence list⟩, after))

theorem reaches_of_readPlain?
    {cursor after : Cursor}
    {item : RankingItem}
    (read : readPlain? cursor = some (item, after)) :
    cursor.Reaches after := by
  obtain ⟨entry, _, found⟩ := List.exists_of_findSome?_eq_some read
  obtain ⟨behind, skipped, same⟩ := Option.map_eq_some_iff.mp found
  cases same
  exact Cursor.reaches_of_skipWord? skipped

theorem reaches_of_read?
    {cursor after : Cursor}
    {item : RankingItem}
    (read : read? cursor = .ok (some (item, after))) :
    cursor.Reaches after := by
  unfold read? at read
  split at read
  · rename_i found plain
    cases read
    exact reaches_of_readPlain? plain
  · split at read
    · simp at read
    · rename_i behindWord skipped
      split at read
      · simp at read
      · rename_i list final listRead
        cases read
        exact (Cursor.reaches_of_skipWord? skipped).trans
          (LetterList.reaches_of_readParenthesized listRead)

/-- Read as many further keys as commas announce. -/
def readMore (cursor : Cursor) : Except Fault (List RankingItem × Cursor) :=
  match skipped : cursor.skipSpaces.skip? ',' with
  | none => .ok ([], cursor)
  | some behindComma =>
      match read : read? behindComma.skipSpaces with
      | .error fault => .error fault
      | .ok none => .ok ([], cursor)
      | .ok (some (item, after)) =>
          have : after.rest.length < cursor.rest.length :=
            have spaces := cursor.reaches_skipSpaces
            have comma := Cursor.reaches_of_skip? skipped
            have key := behindComma.reaches_skipSpaces.trans (reaches_of_read? read)
            Cursor.Reaches.length_lt
              ⟨(spaces.trans comma.1).trans key,
                Nat.lt_of_le_of_lt spaces.column_le
                  (Nat.lt_of_lt_of_le comma.2 key.column_le)⟩
          match readMore after with
          | .error fault => .error fault
          | .ok more => .ok (item :: more.1, more.2)
termination_by cursor.rest.length

/-- Read the items behind the colon: keys, or a bare list of letters. -/
def readAll (cursor : Cursor) : Except Fault (List RankingItem × Cursor) :=
  match read? cursor with
  | .error fault => .error fault
  | .ok none =>
      let list := LetterList.read cursor
      .ok ([⟨list.1.column, .letters list.1⟩], list.2)
  | .ok (some (item, after)) =>
      match readMore after with
      | .error fault => .error fault
      | .ok more => .ok (item :: more.1, more.2)

end RankingItem

/-- Read the rest of a ranking line behind its first word. -/
def readRanking (cursor : Cursor) : Except Fault (List RankingItem × Cursor) :=
  let here := cursor.skipSpaces
  match here.skip? ':' with
  | none => .error ⟨here.column, .rankingColonExpected⟩
  | some behindColon => RankingItem.readAll behindColon.skipSpaces

end LendingRules
