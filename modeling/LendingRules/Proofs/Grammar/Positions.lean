import LendingRules.Proofs.Grammar.Texts

namespace LendingRules

/-!
# Tokens stand where their columns say

A token leaves a mark on the line that it is read from: the column where it
begins and the characters that spell it. The phrases of the grammar pass over the
marks of their tokens one after the other. So the marks of a statement stand on
its line in the order of the tokens, and none of them overlaps another.
-/

/-- How a token is spelled, and the column where it begins. -/
structure Mark where
  column : Nat
  spelling : List Char
  deriving Repr, DecidableEq

/-- From the column of the mark on the line goes on with its spelling. -/
def Mark.StandsIn (mark : Mark) (line : List Char) : Prop :=
  ∃ before behind, line = before ++ mark.spelling ++ behind ∧ mark.column = before.length + 1

/-- A mark on a line has the column of the byte where its spelling begins. -/
theorem Mark.StandsIn.exists_columnAt
    {mark : Mark}
    {line : List Char}
    (stands : mark.StandsIn line) :
    ∃ before behind,
      line = before ++ mark.spelling ++ behind ∧
        columnAt (utf8Bytes line) (utf8Bytes before).size = mark.column := by
  obtain ⟨before, behind, shape, column⟩ := stands
  refine ⟨before, behind, shape, ?_⟩
  rw [shape, List.append_assoc, columnAt_append, column]

/-- Marks that stand on a line, each of them further on than the one before it. -/
structure MarksStand (line : List Char) (marks : List Mark) : Prop where
  stand : ∀ mark ∈ marks, mark.StandsIn line
  ascending : (marks.map Mark.column).Pairwise fun first second => first < second

/-- The mark of a facet letter. -/
def LetterToken.mark (token : LetterToken) : Mark :=
  ⟨token.column, [token.facet.letter]⟩

/-- The marks of the letters in a list. -/
def LetterList.marks (list : LetterList) : List Mark :=
  list.letters.map LetterToken.mark

/-- The marks of an item: the word of its key, and the letters it lists. -/
def RankingItem.marks (item : RankingItem) : List Mark :=
  match item.kind with
  | .letters list => list.marks
  | .precedence list => ⟨item.column, "criterium".toList⟩ :: list.marks
  | .criteriaCount => [⟨item.column, "number-of-criteria".toList⟩]
  | .line .firstLine => [⟨item.column, "first-line".toList⟩]
  | .line .lastLine => [⟨item.column, "last-line".toList⟩]

/-- A name as it is spelled, an exclamation mark in front when it is negated. -/
def NameToken.spelling (token : NameToken) : List Char :=
  if token.negated then '!' :: token.name.toList else token.name.toList

/-- The mark of a name in a criterion. -/
def NameToken.mark (token : NameToken) : Mark :=
  ⟨token.column, token.spelling⟩

/-- The marks of a criterion: its letter and its names. -/
def CriterionToken.marks (token : CriterionToken) : List Mark :=
  ⟨token.column, [token.facet.letter]⟩ :: token.names.map NameToken.mark

/-- The mark of a policy is that of its type, since its id has no column. -/
def PolicyToken.mark (token : PolicyToken) : Mark :=
  ⟨token.column, [token.type.letter]⟩

/-- The marks of a policy list: the colon and its policies. -/
def PolicyList.marks (list : PolicyList) : List Mark :=
  ⟨list.colon, [':']⟩ :: list.tokens.map PolicyToken.mark

/-- The marks of a clause in the order of its tokens. -/
def Clause.marks : Clause → List Mark
  | fallback list => list.marks
  | criteria tokens list? =>
      tokens.flatMap CriterionToken.marks ++ list?.elim [] PolicyList.marks

/-- The marks of a statement in the order of its tokens. -/
def Statement.marks : Statement → List Mark
  | ranking items => items.flatMap RankingItem.marks
  | clause stated => stated.marks

/-- Where a list of letters begins, its first letter stands. -/
def LetterList.BeginsWithLetter (list : LetterList) : Prop :=
  ∀ first ∈ list.letters.head?, list.column = first.column

namespace Cursor

variable {cursor here after : Cursor} {word : List Char} {marks : List Mark}

theorem Passes.reaches (passes : cursor.Passes word after) : cursor.Reaches after :=
  ⟨word, passes.rest, passes.column⟩

theorem Spaces.reaches (spaces : cursor.Spaces after) : cursor.Reaches after := by
  obtain ⟨count, passes⟩ := spaces
  exact passes.reaches

theorem SomeSpaces.reaches (spaces : cursor.SomeSpaces after) : cursor.Reaches after :=
  spaces.spaces.reaches

/-- On the way from one cursor to another stand the marks, one behind the other. -/
inductive Marks : Cursor → List Mark → Cursor → Prop
  | nil
      {cursor after : Cursor}
      (reaches : cursor.Reaches after) :
      Marks cursor [] after
  | cons
      {cursor here behind after : Cursor}
      {word : List Char}
      {marks : List Mark}
      (reaches : cursor.Reaches here)
      (passes : here.Passes word behind)
      (spelled : word ≠ [])
      (others : Marks behind marks after) :
      Marks cursor (⟨here.column, word⟩ :: marks) after

namespace Marks

theorem single
    (passes : cursor.Passes word after)
    (spelled : word ≠ []) :
    cursor.Marks [⟨cursor.column, word⟩] after :=
  .cons (.refl cursor) passes spelled (.nil (.refl after))

/-- The marks may be reached from further in front. -/
theorem of_reaches
    (reaches : cursor.Reaches here)
    (marked : here.Marks marks after) :
    cursor.Marks marks after := by
  cases marked with
  | nil further => exact .nil (reaches.trans further)
  | cons further passes spelled others =>
      exact .cons (reaches.trans further) passes spelled others

/-- Marks on two stretches of a line stand on both together. -/
theorem append
    {further : List Mark}
    (marked : cursor.Marks marks here)
    (behind : here.Marks further after) :
    cursor.Marks (marks ++ further) after := by
  induction marked with
  | nil reaches => exact behind.of_reaches reaches
  | cons reaches passes spelled _ inductionHypothesis =>
      exact .cons reaches passes spelled (inductionHypothesis behind)

/-- Behind the marks the line may go on. -/
theorem andThen
    (marked : cursor.Marks marks here)
    (reaches : here.Reaches after) :
    cursor.Marks marks after := by
  have both := marked.append (.nil reaches)
  rwa [List.append_nil] at both

theorem reaches (marked : cursor.Marks marks after) : cursor.Reaches after := by
  induction marked with
  | nil reaches => exact reaches
  | cons reaches passes _ _ inductionHypothesis =>
      exact (reaches.trans passes.reaches).trans inductionHypothesis

/-- No mark begins in front of where the marks are reached from. -/
theorem column_le
    (marked : cursor.Marks marks after) :
    ∀ mark ∈ marks, cursor.column ≤ mark.column := by
  induction marked with
  | nil => exact fun mark member => nomatch member
  | cons reaches passes _ _ inductionHypothesis =>
      refine List.forall_mem_cons.mpr ⟨reaches.column_le, fun mark member => ?_⟩
      have further := inductionHypothesis mark member
      exact reaches.column_le.trans (passes.reaches.column_le.trans further)

/-- Each mark begins further on than the one before it. -/
theorem ascending
    (marked : cursor.Marks marks after) :
    (marks.map Mark.column).Pairwise fun first second => first < second := by
  induction marked with
  | nil => exact .nil
  | cons _ passes spelled others inductionHypothesis =>
      refine .cons (fun column member => ?_) inductionHypothesis
      obtain ⟨mark, markMember, rfl⟩ := List.mem_map.mp member
      have moved := List.length_pos_iff.mpr spelled
      have behind := others.column_le mark markMember
      have passed := passes.column
      dsimp only
      omega

/-- Every mark stands where a cursor on the way does. -/
theorem exists_passes
    (marked : cursor.Marks marks after)
    {mark : Mark}
    (member : mark ∈ marks) :
    ∃ here behind, cursor.Reaches here ∧ here.column = mark.column ∧
      here.Passes mark.spelling behind := by
  induction marked with
  | nil => cases member
  | cons reaches passes _ _ inductionHypothesis =>
      rcases List.mem_cons.mp member with rfl | further
      · exact ⟨_, _, reaches, rfl, passes⟩
      · obtain ⟨here, behind, reached, column, spelled⟩ := inductionHypothesis further
        exact ⟨here, behind, (reaches.trans passes.reaches).trans reached, column, spelled⟩

/-- Marks reached from the start of a line stand on it. -/
theorem stand
    {line : List Char}
    (marked : (Cursor.start line).Marks marks after) :
    MarksStand line marks where
  stand := by
    intro mark member
    obtain ⟨here, behind, ⟨skipped, shape, column⟩, same, passes⟩ := marked.exists_passes member
    refine ⟨skipped, behind.rest, ?_, ?_⟩
    · rw [List.append_assoc, ← passes.rest]
      exact shape
    · rw [← same, column, Nat.add_comm]
      rfl
  ascending := marked.ascending

end Marks

end Cursor

section Combinations

variable {Value : Type} {Phrase : Cursor → Value → Cursor → Prop} (marksOf : Value → List Mark)
variable {cursor after : Cursor} {value : Value} {values : List Value} {sign : Char}

theorem Repeats.marks
    (phraseMarks : ∀ {cursor value after},
      Phrase cursor value after → cursor.Marks (marksOf value) after)
    (repeats : Repeats Phrase cursor values after) :
    cursor.Marks (values.flatMap marksOf) after := by
  induction repeats with
  | nil => exact .nil (.refl _)
  | cons first _ inductionHypothesis => exact (phraseMarks first).append inductionHypothesis

theorem Spaced.marks
    (phraseMarks : ∀ {cursor value after},
      Phrase cursor value after → cursor.Marks (marksOf value) after)
    (spaced : Spaced Phrase cursor value after) :
    cursor.Marks (marksOf value) after := by
  cases spaced with
  | spaced spaces phrase => exact (phraseMarks phrase).of_reaches spaces.reaches

theorem Behind.marks
    (phraseMarks : ∀ {cursor value after},
      Phrase cursor value after → cursor.Marks (marksOf value) after)
    (behind : Behind sign Phrase cursor value after) :
    cursor.Marks (marksOf value) after := by
  cases behind with
  | behind before passes spaces phrase =>
      have reached := (before.reaches.trans passes.reaches).trans spaces.reaches
      exact (phraseMarks phrase).of_reaches reached

end Combinations

section Phrases

variable {cursor after : Cursor}

theorem LetterToken.Derives.marks
    {token : LetterToken}
    (derives : Derives cursor token after) :
    cursor.Marks [token.mark] after := by
  cases derives with
  | letter passes => exact .single passes (List.cons_ne_nil _ _)

theorem LetterToken.DerivesFurther.marks
    {token : LetterToken}
    (derives : DerivesFurther cursor token after) :
    cursor.Marks [token.mark] after := by
  cases derives with
  | comma phrase => exact phrase.marks (fun token => [token.mark]) LetterToken.Derives.marks
  | spaces phrase => exact phrase.marks (fun token => [token.mark]) LetterToken.Derives.marks

namespace LetterList

variable {list : LetterList}

/-- A list of letters begins at the cursor where it is read, even when it is empty. -/
theorem Derives.column_eq (derives : Derives cursor list after) : list.column = cursor.column := by
  cases derives <;> rfl

theorem Derives.marks (derives : Derives cursor list after) : cursor.Marks list.marks after := by
  cases derives with
  | empty => exact .nil (.refl cursor)
  | letters first others =>
      have further := others.marks (fun token => [token.mark]) LetterToken.DerivesFurther.marks
      rw [← List.map_eq_flatMap] at further
      exact first.marks.append further

theorem Derives.beginsWithLetter
    (derives : Derives cursor list after) :
    list.BeginsWithLetter := by
  cases derives with
  | empty => exact fun first none => nomatch none
  | letters first others =>
      cases first with
      | letter =>
          rintro letter ⟨⟩
          rfl

end LetterList

theorem RankingItem.Derives.marks
    {item : RankingItem}
    (derives : Derives cursor item after) :
    cursor.Marks item.marks after := by
  cases derives with
  | criteriaCount word | firstLine word | lastLine word => exact .single word (by decide)
  | precedence word before opens spaces letters further closes =>
      have opened := (before.reaches.trans opens.reaches).trans spaces.reaches
      have closed := further.reaches.trans closes.reaches
      have listed := (letters.marks.of_reaches opened).andThen closed
      exact (Cursor.Marks.single word (by decide)).append listed

theorem RankingItem.DeriveAll.marks
    {items : List RankingItem}
    (derive : DeriveAll cursor items after) :
    cursor.Marks (items.flatMap RankingItem.marks) after := by
  cases derive with
  | keys first others =>
      exact first.marks.append
        (others.marks RankingItem.marks fun phrase => phrase.marks _ RankingItem.Derives.marks)
  | letters letters => simpa [RankingItem.marks] using letters.marks

namespace NameToken

/-- A name is spelled by the characters that it is read from. -/
theorem mark_ofCharacters (column : Nat) (name : List Char) :
    (ofCharacters column name).mark = ⟨column, name⟩ := by
  unfold ofCharacters
  split <;> simp [mark, spelling]

theorem Derives.marks
    {token : NameToken}
    (derives : Derives cursor token after) :
    cursor.Marks [token.mark] after := by
  cases derives with
  | name passes =>
      rename_i name
      have spelled : name ≠ [] := by
        rintro rfl
        exact passes.isName
      rw [mark_ofCharacters]
      exact .single passes.passes spelled

end NameToken

theorem CriterionToken.Derives.marks
    {token : CriterionToken}
    (derives : Derives cursor token after) :
    cursor.Marks token.marks after := by
  cases derives with
  | criterion begins first others =>
      have name := first.marks (fun name => [name.mark]) NameToken.Derives.marks
      have names := others.marks (fun name => [name.mark]) fun phrase =>
        phrase.marks (fun name => [name.mark]) NameToken.Derives.marks
      rw [← List.map_eq_flatMap] at names
      exact begins.marks.append (name.append names)

theorem PolicyToken.Derives.marks
    {token : PolicyToken}
    (derives : Derives cursor token after) :
    cursor.Marks [token.mark] after := by
  cases derives with
  | policy letter spaces passes =>
      have behind := spaces.reaches.trans passes.passes.reaches
      exact (Cursor.Marks.single letter (List.cons_ne_nil _ _)).andThen behind

theorem PolicyList.Derives.marks
    {list : PolicyList}
    (derives : Derives cursor list after) :
    cursor.Marks list.marks after := by
  cases derives with
  | list colon policies =>
      have sign := Cursor.Marks.single colon (List.cons_ne_nil _ _)
      cases policies with
      | nil spaces => exact sign.andThen spaces.reaches
      | cons spaces first others =>
          have tokens := others.marks (fun token => [token.mark]) fun phrase =>
            phrase.marks (fun token => [token.mark]) PolicyToken.Derives.marks
          rw [← List.map_eq_flatMap] at tokens
          exact sign.append ((first.marks.append tokens).of_reaches spaces.reaches)

theorem CriterionToken.marks_of_repeats
    {behind : Cursor}
    {token : CriterionToken}
    {tokens : List CriterionToken}
    (first : Derives cursor token behind)
    (others : Repeats (Behind '+' Derives) behind tokens after) :
    cursor.Marks ((token :: tokens).flatMap CriterionToken.marks) after :=
  first.marks.append
    (others.marks CriterionToken.marks fun phrase => phrase.marks _ CriterionToken.Derives.marks)

/-- The marks of a statement stand on the way over it. -/
theorem Statement.Derives.marks
    {statement : Statement}
    (derives : Derives cursor statement after) :
    cursor.Marks statement.marks after := by
  cases derives with
  | ranking word before sign spaces lists =>
      have announced := (word.reaches.trans before.reaches).trans sign.reaches
      exact lists.marks.of_reaches (announced.trans spaces.reaches)
  | fallback word spaces policies =>
      exact policies.marks.of_reaches (word.reaches.trans spaces.reaches)
  | header first others =>
      simpa [Statement.marks, Clause.marks] using CriterionToken.marks_of_repeats first others
  | rule first others spaces policies =>
      exact (CriterionToken.marks_of_repeats first others).append
        (policies.marks.of_reaches spaces.reaches)

end Phrases

/-- The marks of a statement stand on the line that derives it. -/
theorem Statement.DerivesLine.marksStand
    {line : List Char}
    {statement : Statement}
    (derives : DerivesLine line statement) :
    MarksStand line statement.marks := by
  cases derives with
  | line indent states => exact (states.marks.of_reaches indent.reaches).stand

/-- The letters that an item lists begin where the list does; a bare list is the item itself. -/
def RankingItem.BeginsWithLetter (item : RankingItem) : Prop :=
  match item.kind with
  | .letters list => item.column = list.column ∧ list.BeginsWithLetter
  | .precedence list => list.BeginsWithLetter
  | .criteriaCount | .line _ => True

namespace RankingItem

variable {cursor after : Cursor} {item : RankingItem} {items : List RankingItem}

theorem Derives.beginsWithLetter
    (derives : Derives cursor item after) :
    item.BeginsWithLetter := by
  cases derives with
  | criteriaCount | firstLine | lastLine => trivial
  | precedence word before opens spaces letters => exact letters.beginsWithLetter

theorem DeriveAll.beginsWithLetter
    (derive : DeriveAll cursor items after) :
    ∀ item ∈ items, item.BeginsWithLetter := by
  cases derive with
  | keys first others =>
      refine List.forall_mem_cons.mpr ⟨first.beginsWithLetter, ?_⟩
      clear first
      induction others with
      | nil => exact fun item member => nomatch member
      | cons next _ inductionHypothesis =>
          obtain ⟨-, -, -, key⟩ := next
          exact List.forall_mem_cons.mpr ⟨key.beginsWithLetter, inductionHypothesis⟩
  | letters letters =>
      rintro item member
      cases List.mem_singleton.mp member
      exact ⟨rfl, letters.beginsWithLetter⟩

end RankingItem

theorem Statement.DerivesLine.beginsWithLetter
    {line : List Char}
    {items : List RankingItem}
    (derives : DerivesLine line (.ranking items)) :
    ∀ item ∈ items, item.BeginsWithLetter := by
  cases derives with
  | line indent states =>
      cases states with
      | ranking word before sign spaces lists => exact lists.beginsWithLetter

/-- The line of that number is what the statement comes from, and has its tokens on it. -/
structure Statement.ReadFrom
    (statement : Statement)
    (text : List Char)
    (number : Nat)
    (line : List Char) : Prop where
  counted : 0 < number
  stands : (textLines text)[number - 1]? = some line
  derives : DerivesLine line statement
  marks : MarksStand line statement.marks

theorem Statement.readFrom_of_mem
    {text : List Char}
    {line : NumberedLine}
    {statement : Statement}
    (member : line ∈ statementLines text)
    (derives : DerivesLine line.characters statement) :
    statement.ReadFrom text line.number line.characters := by
  obtain ⟨index, numbered, stands⟩ := mem_numberedLines.mp (List.mem_of_mem_filter member)
  rw [numbered]
  exact ⟨index.succ_pos, stands, derives, derives.marksStand⟩

namespace Document

/--
The positions in a document are those of its text. The ranking and the entries
stand on ever later lines, each on the one it comes from, with their tokens where
the columns say, and an entry is indented like its line.
-/
structure Faithful (document : Document) (text : List Char) : Prop where
  ascending :
    (document.rankingLine :: document.entries.map Entry.line).Pairwise
      fun first second => first < second
  ranking : ∃ line,
    (Statement.ranking document.rankingItems).ReadFrom text document.rankingLine line
  letters : ∀ item ∈ document.rankingItems, item.BeginsWithLetter
  entries : ∀ entry ∈ document.entries, ∃ line,
    (Statement.clause entry.clause).ReadFrom text entry.line line ∧
      entry.indent = (line.takeWhile (· = ' ')).length

/-- The document that a text reads as tells the positions of the text. -/
theorem faithful_of_ofText
    {text : String}
    {document : Document}
    (read : ofText text = .ok document) :
    document.Faithful text.toList := by
  have ascending := pairwise_lines read
  obtain ⟨-, first, others, listed, stated, numbered, entries⟩ := ofText_eq_ok_iff.mp read
  rw [NumberedLine.statement_eq_ok_iff, Statement.ofLine_eq_ok_iff] at stated
  have member (line : NumberedLine) (among : line ∈ first :: others) :
      line ∈ statementLines text.toList := listed ▸ among
  refine ⟨ascending, ⟨first.characters, ?_⟩, stated.beginsWithLetter, ?_⟩
  · rw [numbered]
    exact Statement.readFrom_of_mem (member first List.mem_cons_self) stated
  · intro entry entryMember
    obtain ⟨line, lineMember, made⟩ := exists_related_of_mem entries entryMember
    obtain ⟨derives, sameLine, sameIndent⟩ := NumberedLine.entry_eq_ok_iff_derives.mp made
    refine ⟨line.characters, ?_, sameIndent⟩
    rw [sameLine]
    exact Statement.readFrom_of_mem (member line (List.mem_cons_of_mem _ lineMember)) derives

/-- Names in several scripts, lines ended in both ways, and a token of every kind. -/
def foreignText : String :=
  "# Regeln für alle\r\n  priority : criterium( t,s c  b , a m g ),number-of-criteria , last-line\r\n" ++
    "m !bücher  !雑誌 + g émile : l ανάγνωση  r 予約 # für alle\r\n" ++
      "  t kurz\n    c nord süd + b 東 :n mahnung\nfallback-policy: l üblich\n"

/-- The positions in that text are told. -/
theorem faithful_foreignText :
    ∃ document, ofText foreignText = .ok document ∧ document.Faithful foreignText.toList := by
  have accepted : (ofText foreignText).isOk = true := by decide +kernel
  cases read : ofText foreignText with
  | error error =>
      rw [read] at accepted
      cases accepted
  | ok document => exact ⟨document, rfl, faithful_of_ofText read⟩

end Document

end LendingRules
