import LendingRules.Proofs.Grammar.FaultColumns
import LendingRules.Proofs.Reading.EarliestFault
import LendingRules.Proofs.Reading.TextLines

namespace LendingRules

/-!
# Errors point into the text

Whatever is wrong with rule text is told at a place of the text: on one of its
lines, at a character or at the end of it, or at the start of the line behind the
last one. Errors in the form of a line have the column that its reader blames,
and errors in the rules have that of a token or of the indentation, so each of
them lies on the line it names. A tab goes before all else, at the place of the
first one.
-/

/--
A place of a text: a line of it with the column of a character or of the end, or
the start of the line behind the last.
-/
structure IsPlaceIn (text : List Char) (line column : Nat) : Prop where
  counted : 1 ≤ line ∧ line ≤ (textLines text).length + 1
  onLine : ∀ characters, (textLines text)[line - 1]? = some characters →
    1 ≤ column ∧ column ≤ characters.length + 1
  behind : line = (textLines text).length + 1 → column = 1

namespace IsPlaceIn

variable {text : List Char} {line : NumberedLine} {column : Nat}

theorem of_mem
    (member : line ∈ numberedLines text)
    (within : 1 ≤ column ∧ column ≤ line.characters.length + 1) :
    IsPlaceIn text line.number column := by
  obtain ⟨index, numbered, stands⟩ := mem_numberedLines.mp member
  obtain ⟨inBounds, -⟩ := List.getElem?_eq_some_iff.mp stands
  rw [numbered]
  refine ⟨⟨by omega, by omega⟩, ?_, by omega⟩
  intro characters same
  cases stands.symm.trans same
  exact within

/-- The line behind one of the text starts at a place. -/
theorem next_of_mem
    (member : line ∈ numberedLines text) :
    IsPlaceIn text (line.number + 1) 1 := by
  obtain ⟨index, numbered, stands⟩ := mem_numberedLines.mp member
  obtain ⟨inBounds, -⟩ := List.getElem?_eq_some_iff.mp stands
  exact ⟨by omega, fun characters _ => by omega, fun _ => rfl⟩

/-- Every text has a place at its start, even when it has no line. -/
theorem start (text : List Char) : IsPlaceIn text 1 1 :=
  ⟨by omega, fun characters _ => by omega, fun _ => rfl⟩

end IsPlaceIn

theorem NumberedLine.indent_le (line : NumberedLine) : line.indent ≤ line.characters.length :=
  (List.takeWhile_sublist _).length_le

section Tabs

/-- The line and the column of a character that stands behind the given ones. -/
def placeBehind (before : List Char) : Nat × Nat :=
  (before.count '\n' + 1, (before.reverse.takeWhile (· ≠ '\n')).length + 1)

variable {line before : List Char}

theorem placeBehind_of_noFeed (noFeed : '\n' ∉ line) : placeBehind line = (1, line.length + 1) := by
  have all : ∀ character ∈ line.reverse, decide (character ≠ '\n') = true := by
    intro character member
    rw [decide_eq_true_iff]
    rintro rfl
    exact noFeed (List.mem_reverse.mp member)
  rw [placeBehind, List.count_eq_zero.mpr noFeed, List.takeWhile_eq_self_iff.mpr all,
    List.length_reverse]

/-- A line in front moves a place down and leaves its column. -/
theorem placeBehind_append_newline (noFeed : '\n' ∉ line) (rest : List Char) :
    placeBehind (line ++ '\n' :: rest) = ((placeBehind rest).1 + 1, (placeBehind rest).2) := by
  have column :
      (line ++ '\n' :: rest).reverse.takeWhile (· ≠ '\n') =
        rest.reverse.takeWhile (· ≠ '\n') := by
    rw [List.reverse_append, List.reverse_cons, List.append_assoc, List.takeWhile_append]
    split
    · rename_i whole
      rw [(List.takeWhile_prefix _).eq_of_length whole]
      simp
    · rfl
  rw [placeBehind, column, placeBehind, List.count_append, List.count_eq_zero.mpr noFeed,
    List.count_cons_self, Nat.zero_add]

theorem findIdx?_tab_of_noTab (noTab : '\t' ∉ line) : line.findIdx? (· = '\t') = none := by
  rw [List.findIdx?_eq_none_iff]
  intro character member
  rw [decide_eq_false_iff_not]
  rintro rfl
  exact noTab member

/-- The first tab is found where it stands, whatever follows it. -/
theorem firstTab?_of_append
    (noTab : '\t' ∉ before)
    (after : List Char) :
    firstTab? (before ++ '\t' :: after) = some (placeBehind before) := by
  -- Generalised over the number of lines in front, the lines before the tab are passed one by one.
  suffices passed : ∀ index,
      (((segments (before ++ '\t' :: after)).zipIdx index).findSome? fun numbered =>
          (numbered.1.findIdx? (· = '\t')).map fun position => (numbered.2 + 1, position + 1)) =
        some (index + (placeBehind before).1, (placeBehind before).2) by
    have fromStart := passed 0
    rwa [Nat.zero_add] at fromStart
  induction size : before.length using Nat.strongRecOn generalizing before with
  | ind length inductionHypothesis =>
      intro index
      by_cases feed : '\n' ∈ before
      · obtain ⟨line, rest, rfl, noFeed⟩ := List.eq_append_cons_of_mem feed
        simp only [List.mem_append, List.mem_cons, not_or] at noTab
        have shorter : rest.length < length := by
          rw [← size, List.length_append, List.length_cons]
          omega
        rw [List.append_assoc, List.cons_append, segments_append_newline noFeed,
          List.zipIdx_cons, List.findSome?_cons]
        simp only [findIdx?_tab_of_noTab noTab.1, Option.map_none]
        rw [inductionHypothesis _ shorter noTab.2.2 rfl, placeBehind_append_newline noFeed]
        simp only [Option.some.injEq, Prod.mk.injEq, and_true]
        omega
      · obtain ⟨segment, others, begins, cut⟩ := exists_segments_append feed ('\t' :: after)
        have tabAlone : '\n' ∉ ['\t'] := by decide
        obtain ⟨rest, more, -, tabbed⟩ := exists_segments_append tabAlone after
        cases begins.symm.trans tabbed
        have found : (before ++ '\t' :: rest).findIdx? (· = '\t') = some before.length := by
          simp [List.findIdx?_append, findIdx?_tab_of_noTab noTab, List.findIdx?_cons]
        rw [cut, List.zipIdx_cons, List.findSome?_cons, placeBehind_of_noFeed feed]
        simp only [List.singleton_append, found, Option.map_some]

/-- The first tab stands on the line and at the column that are told for it. -/
theorem exists_line_of_firstTab?
    {text : List Char}
    {number column : Nat}
    (found : firstTab? text = some (number, column)) :
    ∃ line ∈ numberedLines text, line.number = number ∧ 1 ≤ column ∧
      line.characters[column - 1]? = some '\t' := by
  obtain ⟨⟨segment, index⟩, listed, found⟩ := List.exists_of_findSome?_eq_some found
  obtain ⟨position, tabbed, same⟩ := Option.map_eq_some_iff.mp found
  cases same
  obtain ⟨inBounds, here, -⟩ := List.findIdx?_eq_some_iff_getElem.mp tabbed
  have tab : segment[position]? = some '\t' := by
    rw [List.getElem?_eq_getElem inBounds, of_decide_eq_true here]
  have present : segment ≠ [] := List.ne_nil_of_length_pos (by omega)
  obtain ⟨characters, stands, kept⟩ :=
    exists_line_of_segment (List.mk_mem_zipIdx_iff_getElem?.mp listed) present
  refine ⟨⟨index + 1, characters⟩, mem_numberedLines.mpr ⟨index, rfl, stands⟩, rfl, by omega, ?_⟩
  rcases kept with rfl | rfl
  · exact tab
  · exact getElem?_dropReturn_of_tab tab

end Tabs

/-- An error is told on the line, at one of its columns. -/
def NumberedLine.Blamed (line : NumberedLine) (number column : Nat) : Prop :=
  number = line.number ∧ 1 ≤ column ∧ column ≤ line.characters.length + 1

namespace NumberedLine

variable {line : NumberedLine} {error : SyntaxError}

theorem blamed_indent (line : NumberedLine) : line.Blamed line.number (line.indent + 1) :=
  ⟨rfl, Nat.le_add_left .., Nat.succ_le_succ line.indent_le⟩

theorem blamed_of_statement
    (failed : line.statement = .error error) :
    line.Blamed error.line error.column := by
  unfold statement at failed
  cases stated : Statement.ofLine line.characters with
  | ok statement =>
      rw [stated] at failed
      cases failed
  | error fault =>
      rw [stated] at failed
      cases failed
      exact ⟨rfl, Cursor.sees_start (Statement.sees_of_ofLine stated)⟩

theorem blamed_of_entry
    (failed : line.entry = .error error) :
    line.Blamed error.line error.column := by
  rcases bind_eq_error_iff.mp failed with unread | ⟨statement, -, failed⟩
  · exact blamed_of_statement unread
  · cases statement with
    | ranking items =>
        cases failed
        exact line.blamed_indent
    | clause clause => cases failed

end NumberedLine

namespace Document

variable {text : String}

/-- What is wrong with the form of lines is blamed on one of them, if there is any. -/
theorem blamed_of_ofLines
    {lines : List NumberedLine}
    {error : SyntaxError}
    (failed : ofLines lines = .error error) :
    (error.line = 1 ∧ error.column = 1) ∨
      ∃ line ∈ lines, line.Blamed error.line error.column := by
  cases lines with
  | nil =>
      cases failed
      exact .inl ⟨rfl, rfl⟩
  | cons first others =>
      right
      rcases bind_eq_error_iff.mp failed with unread | ⟨statement, -, failed⟩
      · exact ⟨first, List.mem_cons_self, NumberedLine.blamed_of_statement unread⟩
      · cases statement with
        | clause clause =>
            cases failed
            exact ⟨first, List.mem_cons_self, first.blamed_indent⟩
        | ranking items =>
            rcases bind_eq_error_iff.mp failed with unread | ⟨entries, -, made⟩
            · obtain ⟨line, member, fails⟩ := exists_of_mapM_eq_error unread
              exact ⟨line, List.mem_cons_of_mem _ member, NumberedLine.blamed_of_entry fails⟩
            · cases made

/-- What is wrong with the form of a text is told at a place of it. -/
theorem isPlaceIn_of_ofText_eq_error
    {error : SyntaxError}
    (failed : ofText text = .error error) :
    IsPlaceIn text.toList error.line error.column := by
  unfold ofText at failed
  dsimp only at failed
  split at failed
  · rename_i number column found
    cases failed
    obtain ⟨line, member, rfl, begins, tab⟩ := exists_line_of_firstTab? found
    obtain ⟨inBounds, -⟩ := List.getElem?_eq_some_iff.mp tab
    have ends : column ≤ line.characters.length + 1 := by omega
    exact .of_mem member ⟨begins, ends⟩
  · rcases blamed_of_ofLines failed with ⟨line, column⟩ | ⟨line, member, number, within⟩
    · rw [line, column]
      exact .start _
    · rw [number]
      exact .of_mem (List.mem_of_mem_filter member) within

end Document

section Rules

variable {Value Given : Type} {Place : Nat → Nat → Prop} {line : Nat}

/-- A check fails only at the given places. -/
def FailsWithin (Place : Nat → Nat → Prop) (result : Except RuleError Value) : Prop :=
  ∀ error, result = .error error → Place error.line error.column

theorem failsWithin_ok (value : Value) : FailsWithin Place (.ok value) :=
  fun _ failed => nomatch failed

theorem failsWithin_error
    {error : RuleError}
    (place : Place error.line error.column) :
    FailsWithin Place (.error error : Except RuleError Value) := by
  rintro _ ⟨⟩
  exact place

theorem FailsWithin.bind
    {result : Except RuleError Given}
    {next : Given → Except RuleError Value}
    (first : FailsWithin Place result)
    (others : ∀ given, result = .ok given → FailsWithin Place (next given)) :
    FailsWithin Place (result >>= next) := by
  intro error failed
  rcases bind_eq_error_iff.mp failed with here | ⟨given, made, behind⟩
  · exact first error here
  · exact others given made error behind

theorem FailsWithin.map
    {result : Except RuleError Given}
    (fails : FailsWithin Place result)
    (make : Given → Value) :
    FailsWithin Place (make <$> result) :=
  fun error failed => fails error (map_eq_error_iff.mp failed)

theorem mem_of_firstRepeatAfter?
    {Element Key : Type}
    [DecidableEq Key]
    {key : Element → Key}
    {seen : List Key}
    {elements : List Element}
    {element : Element}
    (found : firstRepeatAfter? key seen elements = some element) :
    element ∈ elements := by
  induction elements generalizing seen with
  | nil => cases found
  | cons first rest inductionHypothesis =>
      unfold firstRepeatAfter? at found
      split at found
      · cases found
        exact List.mem_cons_self
      · exact List.mem_cons_of_mem _ (inductionHypothesis found)

/-- The columns of a list of letters: where it begins, and those of its letters. -/
def LetterList.columns (list : LetterList) : List Nat :=
  list.column :: list.marks.map Mark.column

/-- The columns of an item and of the letters that it lists. -/
def RankingItem.columns (item : RankingItem) : List Nat :=
  item.column :: item.letters?.elim [] LetterList.columns

theorem LetterList.failsWithin_precedence
    {list : LetterList}
    (placed : ∀ column ∈ list.columns, Place line column) :
    FailsWithin Place (list.precedence line) := by
  obtain ⟨here, letters⟩ := List.forall_mem_cons.mp placed
  unfold precedence
  dsimp only
  split
  · exact failsWithin_error here
  · split
    · rename_i token repeated
      have member := List.mem_map_of_mem (f := LetterToken.mark) (mem_of_firstRepeatAfter? repeated)
      exact failsWithin_error (letters _ (List.mem_map_of_mem member))
    · split
      · exact failsWithin_ok _
      · exact failsWithin_error here

namespace RankingItem

theorem failsWithin_key
    {item : RankingItem}
    (placed : ∀ column ∈ item.columns, Place line column) :
    FailsWithin Place (item.key line) := by
  obtain ⟨-, listed⟩ := List.forall_mem_cons.mp placed
  rcases item with ⟨column, kind⟩
  cases kind with
  | letters list | precedence list => exact (LetterList.failsWithin_precedence listed).map _
  | criteriaCount | line preference => exact failsWithin_ok _

theorem failsWithin_keysAfter
    {items : List RankingItem}
    (placed : ∀ item ∈ items, ∀ column ∈ item.columns, Place line column)
    (seen : List RankingKeyKind) :
    FailsWithin Place (keysAfter line seen items) := by
  induction items generalizing seen with
  | nil => exact failsWithin_ok _
  | cons item rest inductionHypothesis =>
      obtain ⟨here, others⟩ := List.forall_mem_cons.mp placed
      refine (failsWithin_key here).bind fun key _ => ?_
      split
      · exact failsWithin_error (here _ List.mem_cons_self)
      · split
        · exact failsWithin_error (here _ List.mem_cons_self)
        · exact (inductionHypothesis others _).bind fun keys _ => failsWithin_ok _

end RankingItem

theorem Document.failsWithin_ranking
    {document : Document}
    (placed : ∀ item ∈ document.rankingItems, ∀ column ∈ item.columns,
      Place document.rankingLine column) :
    FailsWithin Place document.ranking := by
  unfold ranking
  split
  · rename_i column list items
    rw [items] at placed
    obtain ⟨-, listed⟩ := List.forall_mem_cons.mp (placed _ List.mem_cons_self)
    exact (LetterList.failsWithin_precedence listed).map _
  · exact (RankingItem.failsWithin_keysAfter placed []).map _

namespace CriterionToken

theorem failsWithin_criterion
    {token : CriterionToken}
    (placed : ∀ mark ∈ token.marks, Place line mark.column) :
    FailsWithin Place (token.criterion line) := by
  obtain ⟨-, names⟩ := List.forall_mem_cons.mp placed
  unfold criterion
  split
  · exact failsWithin_ok _
  · dsimp only
    split
    · rename_i odd found
      have member := List.mem_of_find?_eq_some found
      exact failsWithin_error (names _ (List.mem_map_of_mem member))
    · exact failsWithin_ok _

theorem failsWithin_extend
    {tokens : List CriterionToken}
    (placed : ∀ mark ∈ tokens.flatMap marks, Place line mark.column)
    (inherited : List Criterion) :
    FailsWithin Place (extend line inherited tokens) := by
  induction tokens generalizing inherited with
  | nil => exact failsWithin_ok _
  | cons token rest inductionHypothesis =>
      rw [List.flatMap_cons, List.forall_mem_append] at placed
      unfold extend
      split
      · exact failsWithin_error (placed.1 _ List.mem_cons_self)
      · exact (failsWithin_criterion placed.1).bind fun criterion _ =>
          inductionHypothesis placed.2 _

end CriterionToken

theorem PolicyList.failsWithin_policies
    {list : PolicyList}
    (placed : ∀ mark ∈ list.marks, Place line mark.column) :
    FailsWithin Place (list.policies line) := by
  obtain ⟨colon, tokens⟩ := List.forall_mem_cons.mp placed
  unfold policies
  split
  · exact failsWithin_error colon
  · split
    · rename_i token repeated
      exact failsWithin_error (tokens _ (List.mem_map_of_mem (mem_of_firstRepeatAfter? repeated)))
    · exact failsWithin_ok _

/-- The start of an entry, the end of its indentation and its tokens are in place. -/
structure Entry.Placed (Place : Nat → Nat → Prop) (entry : Entry) : Prop where
  start : Place entry.line 1
  indent : Place entry.line (entry.indent + 1)
  marks : ∀ mark ∈ entry.clause.marks, Place entry.line mark.column

namespace Nesting

variable {nesting next last : Nesting} {entry : Entry} {entries : List Entry}

/-- The open frames begin in place. -/
def Placed (Place : Nat → Nat → Prop) (nesting : Nesting) : Prop :=
  ∀ frame ∈ nesting.frames, Place frame.line (frame.indent + 1)

theorem Placed.failsWithin_closeFrom
    (placed : nesting.Placed Place)
    (indent : Nat) :
    FailsWithin Place (Frame.closeFrom indent nesting.frames) := by
  intro error failed
  obtain ⟨frame, member, -, -, rfl⟩ := Frame.exists_childless_of_closeFrom_eq_error failed
  exact placed frame member

theorem failsWithin_addFallback
    {list : PolicyList}
    (start : Place entry.line 1)
    (indent : Place entry.line (entry.indent + 1))
    (marks : ∀ mark ∈ list.marks, Place entry.line mark.column) :
    FailsWithin Place (nesting.addFallback entry list) := by
  unfold addFallback
  split
  · exact failsWithin_error indent
  · split
    · exact failsWithin_error start
    · exact (PolicyList.failsWithin_policies marks).bind fun policies _ => failsWithin_ok _

theorem failsWithin_addCriteria
    {tokens : List CriterionToken}
    {list? : Option PolicyList}
    (marks : ∀ mark ∈ (Clause.criteria tokens list?).marks, Place entry.line mark.column) :
    FailsWithin Place (nesting.addCriteria entry tokens list?) := by
  obtain ⟨criteria, policies⟩ := List.forall_mem_append.mp marks
  unfold addCriteria
  refine (CriterionToken.failsWithin_extend criteria _).bind fun made _ => ?_
  cases list? with
  | none => exact failsWithin_ok _
  | some list =>
      exact (PolicyList.failsWithin_policies policies).bind fun assigned _ => failsWithin_ok _

theorem Placed.failsWithin_add
    (placed : nesting.Placed Place)
    (entryPlaced : entry.Placed Place) :
    FailsWithin Place (nesting.add entry) := by
  obtain ⟨start, indented, marks⟩ := entryPlaced
  rcases entry with ⟨line, indent, clause⟩
  refine (placed.failsWithin_closeFrom _).bind fun frames _ => ?_
  cases clause with
  | fallback list => exact failsWithin_addFallback start indented marks
  | criteria tokens list? => exact failsWithin_addCriteria marks

/-- Taking in an entry opens at most a frame that begins where the entry does. -/
theorem Placed.add
    (placed : nesting.Placed Place)
    (entryPlaced : entry.Placed Place)
    {rule? : Option Rule}
    (added : nesting.add entry = .ok (rule?, next)) :
    next.Placed Place := by
  rcases entry with ⟨line, indent, clause⟩
  cases clause with
  | fallback list =>
      obtain ⟨-, -, -, -, -, -, rfl⟩ := add_fallback_eq_ok_iff.mp added
      exact fun frame member => nomatch member
  | criteria tokens list? =>
      obtain ⟨-, criteria, -, -, -, rfl⟩ := add_criteria_eq_ok_iff.mp added
      have kept : ∀ frame ∈ nesting.openAt indent, Place frame.line (frame.indent + 1) :=
        fun frame member => placed frame ((List.dropWhile_sublist _).subset member)
      refine List.forall_mem_cons.mpr ⟨entryPlaced.indent, ?_⟩
      cases shape : nesting.openAt indent with
      | nil => exact fun frame member => nomatch member
      | cons innermost outer =>
          rw [shape] at kept
          exact List.forall_mem_cons.mpr (List.forall_mem_cons.mp kept)

/-- Walking down entries that are in place fails, if at all, in place. -/
theorem Placed.failsWithin_addAll
    (placed : nesting.Placed Place)
    (entriesPlaced : ∀ entry ∈ entries, entry.Placed Place) :
    FailsWithin Place (nesting.addAll entries) := by
  induction entries generalizing nesting with
  | nil => exact failsWithin_ok _
  | cons entry rest inductionHypothesis =>
      obtain ⟨here, others⟩ := List.forall_mem_cons.mp entriesPlaced
      refine (placed.failsWithin_add here).bind fun ⟨rule?, next⟩ added => ?_
      exact (inductionHypothesis (placed.add here added) others).bind fun taken _ =>
        failsWithin_ok _

/-- The frames that are open behind entries that are in place begin in place. -/
theorem Placed.addAll
    (placed : nesting.Placed Place)
    (entriesPlaced : ∀ entry ∈ entries, entry.Placed Place)
    {rules : List Rule}
    (added : nesting.addAll entries = .ok (rules, last)) :
    last.Placed Place := by
  induction entries generalizing nesting rules with
  | nil =>
      cases added
      exact placed
  | cons entry rest inductionHypothesis =>
      obtain ⟨here, others⟩ := List.forall_mem_cons.mp entriesPlaced
      obtain ⟨rule?, next, more, entryAdded, restAdded, -⟩ := addAll_cons_eq_ok_iff.mp added
      exact inductionHypothesis (placed.add here entryAdded) others restAdded

end Nesting

theorem Document.failsWithin_rules
    {document : Document}
    (entriesPlaced : ∀ entry ∈ document.entries, entry.Placed Place)
    (behind : Place (document.lastLine + 1) 1) :
    FailsWithin Place document.rules := by
  have started : Nesting.start.Placed Place := fun frame member => nomatch member
  refine (started.failsWithin_addAll entriesPlaced).bind fun ⟨rules, last⟩ added => ?_
  refine ((started.addAll entriesPlaced added).failsWithin_closeFrom 0).bind fun kept _ => ?_
  split
  · exact failsWithin_ok _
  · exact failsWithin_error behind

end Rules

section Columns

variable {cursor after : Cursor}

/-- A mark on the way stands at a column that is seen. -/
theorem Cursor.Marks.sees
    {marks : List Mark}
    (marked : cursor.Marks marks after) :
    ∀ mark ∈ marks, cursor.Sees mark.column := by
  intro mark member
  obtain ⟨here, -, reaches, same, -⟩ := marked.exists_passes member
  exact ⟨here, reaches, same⟩

theorem LetterList.Derives.sees
    {list : LetterList}
    (derives : Derives cursor list after) :
    ∀ column ∈ list.columns, cursor.Sees column := by
  refine List.forall_mem_cons.mpr ⟨derives.column_eq ▸ cursor.sees_self, ?_⟩
  rw [List.forall_mem_map]
  exact derives.marks.sees

namespace RankingItem

theorem Derives.sees
    {item : RankingItem}
    (derives : Derives cursor item after) :
    ∀ column ∈ item.columns, cursor.Sees column := by
  cases derives with
  | criteriaCount | firstLine | lastLine =>
      exact List.forall_mem_cons.mpr ⟨cursor.sees_self, fun column member => nomatch member⟩
  | precedence word before opens spaces letters =>
      have opened := (word.reaches.trans before.reaches).trans (opens.reaches.trans spaces.reaches)
      exact List.forall_mem_cons.mpr
        ⟨cursor.sees_self, fun column member => opened.sees_of_sees (letters.sees column member)⟩

theorem DeriveAll.sees
    {items : List RankingItem}
    (derive : DeriveAll cursor items after) :
    ∀ item ∈ items, ∀ column ∈ item.columns, cursor.Sees column := by
  cases derive with
  | letters letters =>
      intro item member
      cases List.mem_singleton.mp member
      have listed := letters.sees
      exact List.forall_mem_cons.mpr ⟨listed _ List.mem_cons_self, listed⟩
  | keys first others =>
      refine List.forall_mem_cons.mpr ⟨first.sees, ?_⟩
      have reached := first.marks.reaches
      clear first
      induction others with
      | nil => exact fun item member => nomatch member
      | cons next _ inductionHypothesis =>
          obtain ⟨before, passes, spaces, key⟩ := next
          have begins := reached.trans
            ((before.reaches.trans passes.reaches).trans spaces.reaches)
          exact List.forall_mem_cons.mpr
            ⟨fun column member => begins.sees_of_sees (key.sees column member),
              inductionHypothesis (begins.trans key.marks.reaches)⟩

end RankingItem

theorem Statement.DerivesLine.sees_columns
    {line : List Char}
    {items : List RankingItem}
    (derives : DerivesLine line (.ranking items)) :
    ∀ item ∈ items, ∀ column ∈ item.columns, (Cursor.start line).Sees column := by
  cases derives with
  | line indent states =>
      cases states with
      | ranking word before sign spaces lists =>
          have announced := (indent.reaches.trans word.reaches).trans before.reaches
          have begins := (announced.trans sign.reaches).trans spaces.reaches
          exact fun item member column listed =>
            begins.sees_of_sees (lists.sees item member column listed)

end Columns

namespace Document

variable {text : String} {document : Document}

/-- The line that a statement is read from is one of the text. -/
theorem exists_numberedLine
    {number : Nat}
    (listed : number ∈ document.rankingLine :: document.entries.map Entry.line)
    (read : ofText text = .ok document) :
    ∃ line ∈ numberedLines text.toList, line.number = number := by
  rw [lines_eq read] at listed
  obtain ⟨line, member, same⟩ := List.mem_map.mp listed
  exact ⟨line, List.mem_of_mem_filter member, same⟩

/-- What is wrong with the rules of a document is told at a place of its text. -/
theorem isPlaceIn_of_rulebook_eq_error
    (read : ofText text = .ok document)
    {digest : Digest}
    {error : RuleError}
    (failed : document.rulebook digest = .error error) :
    IsPlaceIn text.toList error.line error.column := by
  obtain ⟨last, lastMember, lastNumber⟩ := exists_numberedLine (List.mem_of_getLast? document.getLast?_lines) read
  obtain ⟨-, first, others, listed, stated, numbered, entries⟩ := ofText_eq_ok_iff.mp read
  have among (line : NumberedLine) (member : line ∈ first :: others) :
      line ∈ numberedLines text.toList :=
    List.mem_of_mem_filter (listed ▸ member : line ∈ statementLines text.toList)
  rw [NumberedLine.statement_eq_ok_iff, Statement.ofLine_eq_ok_iff] at stated
  have ranked : FailsWithin (IsPlaceIn text.toList) document.ranking := by
    refine failsWithin_ranking fun item member column columnMember => ?_
    rw [numbered]
    exact .of_mem (among first List.mem_cons_self)
      (Cursor.sees_start (stated.sees_columns item member column columnMember))
  have entriesPlaced : ∀ entry ∈ document.entries, entry.Placed (IsPlaceIn text.toList) := by
    intro entry member
    obtain ⟨line, lineMember, made⟩ := exists_related_of_mem entries member
    obtain ⟨derives, sameLine, sameIndent⟩ := NumberedLine.entry_eq_ok_iff_derives.mp made
    have place {column : Nat} (within : 1 ≤ column ∧ column ≤ line.characters.length + 1) :
        IsPlaceIn text.toList line.number column :=
      .of_mem (among line (List.mem_cons_of_mem _ lineMember)) within
    refine ⟨?_, ?_, fun mark markMember => ?_⟩
    all_goals rw [sameLine]
    · exact place ⟨Nat.le_refl 1, Nat.le_add_left ..⟩
    · exact sameIndent ▸ place line.blamed_indent.2
    · cases derives with
      | line indent states =>
          have marked := states.marks.of_reaches indent.reaches
          exact place (Cursor.sees_start (marked.sees mark markMember))
  have behind : IsPlaceIn text.toList (document.lastLine + 1) 1 :=
    lastNumber ▸ .next_of_mem lastMember
  have checked := ranked.bind fun ranking _ =>
    (failsWithin_rules entriesPlaced behind).bind fun rules _ =>
      failsWithin_ok (Rulebook.ofRules ranking rules digest)
  exact checked error failed

end Document

namespace Rulebook

/--
A text that is refused is told a place of it. A text with a tab is refused for
the first one, at its line and column, whatever else is wrong.
-/
theorem errors_point_into_text (text : String) :
    (∀ error, ofText text = .error error →
      ∃ line column, error.location? = some (line, column) ∧
        IsPlaceIn text.toList line column) ∧
      ∀ before after, text.toList = before ++ '\t' :: after → '\t' ∉ before →
        ∃ line column, (line, column) = placeBehind before ∧
          ofText text = .error (.syntaxError ⟨line, column, .tab⟩) ∧
            ∃ characters, (textLines text.toList)[line - 1]? = some characters ∧
              characters[column - 1]? = some '\t' := by
  constructor
  · intro error failed
    unfold ofText at failed
    split at failed
    · rename_i syntaxError unread
      cases failed
      exact ⟨_, _, rfl, Document.isPlaceIn_of_ofText_eq_error unread⟩
    · rename_i document read
      split at failed
      · rename_i ruleError unmade
        cases failed
        exact ⟨_, _, rfl, Document.isPlaceIn_of_rulebook_eq_error read unmade⟩
      · cases failed
  · intro before after shape noTab
    have found : firstTab? text.toList = some (placeBehind before) := by
      rw [shape, firstTab?_of_append noTab]
    obtain ⟨line, member, number, -, tab⟩ := exists_line_of_firstTab? found
    obtain ⟨index, numbered, stands⟩ := mem_numberedLines.mp member
    refine ⟨_, _, rfl, ?_, line.characters, ?_, tab⟩
    · simp only [ofText, Document.ofText, found]
      rfl
    · rw [← number, numbered]
      exact stands

/-- A text with a tab in a comment on its last line, behind a line that is no statement. -/
def tabbedText : String :=
  "priority: last-line\r\nnötig\r\n# für\talle"

/-- The error of that text is the tab, at a place of the text. -/
theorem errors_point_into_tabbedText :
    (∃ line column, LendingError.location? (.syntaxError ⟨3, 6, .tab⟩) = some (line, column) ∧
      IsPlaceIn tabbedText.toList line column) ∧
      ofText tabbedText = .error (.syntaxError ⟨3, 6, .tab⟩) := by
  obtain ⟨places, tabs⟩ := errors_point_into_text tabbedText
  obtain ⟨line, column, place, refused, -⟩ :=
    tabs "priority: last-line\r\nnötig\r\n# für".toList "alle".toList (by decide) (by decide)
  cases place.trans (by decide : _ = (3, 6))
  exact ⟨places _ refused, refused⟩

end Rulebook

end LendingRules
