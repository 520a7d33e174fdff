import LendingRules.Proofs.Grammar.Lines
import LendingRules.Proofs.Reading.Entries

namespace LendingRules

/-!
# Exactly the grammatical texts are read

Lines that are blank or begin with a sign of a comment say nothing. A text is
grammatical when it has other lines, all of them derive statements, and the
first and only the first of them a ranking. A document derives from a text when
each of those lines derives what the document has for it, so that no line of
them is missing and none is made up.
-/

/-- A line of nothing but spaces, or of spaces and a comment. -/
def SaysNothing (line : List Char) : Prop :=
  ∃ count rest, line = List.replicate count ' ' ++ rest ∧
    ∀ first ∈ rest.head?, first = '#' ∨ first = '/'

/-- Whether a line says something is told by the first character that is no space. -/
theorem NumberedLine.isStatement_eq_false_iff
    {line : NumberedLine} :
    line.isStatement = false ↔ SaysNothing line.characters := by
  unfold NumberedLine.isStatement
  constructor
  · intro nothing
    obtain ⟨count, spaces⟩ := (Cursor.start line.characters).spaces_skipSpaces
    refine ⟨count, line.characters.dropWhile (· = ' '), spaces.rest, ?_⟩
    cases shape : line.characters.dropWhile (· = ' ') with
    | nil => simp
    | cons first rest =>
        simp only [shape, Bool.and_eq_false_iff, decide_eq_false_iff_not, not_not] at nothing
        simpa using nothing
  · rintro ⟨count, rest, shape, comment⟩
    have present : rest.head? ≠ some ' ' := by
      intro space
      rcases comment ' ' space with same | same <;> cases same
    have spaces : (Cursor.start line.characters).Spaces ⟨1 + count, rest⟩ :=
      ⟨count, shape, by simp [Cursor.start]⟩
    have left : line.characters.dropWhile (· = ' ') = rest :=
      congrArg Cursor.rest (spaces.skipSpaces_eq_of_head? present)
    rw [left]
    cases rest with
    | nil => rfl
    | cons first others =>
        simp only [Bool.and_eq_false_iff, decide_eq_false_iff_not, not_not]
        exact comment first rfl

instance (line : List Char) : Decidable (SaysNothing line) :=
  decidable_of_iff ((NumberedLine.mk 0 line).isStatement = false)
    NumberedLine.isStatement_eq_false_iff

/-- The lines of a text that say something, in order. -/
def spokenLines (text : List Char) : List NumberedLine :=
  (numberedLines text).filter fun line => ¬ SaysNothing line.characters

theorem statementLines_eq_spokenLines (text : List Char) :
    statementLines text = spokenLines text := by
  refine List.filter_congr fun line _ => ?_
  rw [Bool.eq_iff_iff, decide_eq_true_iff, ← NumberedLine.isStatement_eq_false_iff,
    Bool.not_eq_false]

/-- The first line that says something derives a ranking, the others other statements. -/
def Grammatical (text : List Char) : Prop :=
  ∃ first others, spokenLines text = first :: others ∧
    (∀ line ∈ first :: others, ∃ statement, Statement.DerivesLine line.characters statement) ∧
      (∃ items, Statement.DerivesLine first.characters (.ranking items)) ∧
        ∀ line ∈ others, ∀ items, ¬ Statement.DerivesLine line.characters (.ranking items)

/-- The line derives what the entry says, and the entry tells where it stands. -/
structure Entry.Derives (spoken : NumberedLine) (entry : Entry) : Prop where
  states : Statement.DerivesLine spoken.characters (.clause entry.clause)
  line : entry.line = spoken.number
  indent : entry.indent = spoken.indent

namespace Document

/-- The ranking and the entries derive, one for one, from the lines that say something. -/
inductive Derives : List NumberedLine → Document → Prop
  | document
      {first : NumberedLine}
      {others : List NumberedLine}
      {items : List RankingItem}
      {entries : List Entry}
      (ranking : Statement.DerivesLine first.characters (.ranking items))
      (below : List.Forall₂ Entry.Derives others entries) :
      Derives (first :: others) ⟨first.number, items, entries⟩

end Document

theorem NumberedLine.entry_eq_ok_iff_derives
    {line : NumberedLine}
    {entry : Entry} :
    line.entry = .ok entry ↔ Entry.Derives line entry := by
  rw [entry_eq_ok_iff, Statement.ofLine_eq_ok_iff]
  constructor
  · rintro ⟨states, sameLine, sameIndent⟩
    exact ⟨states, sameLine, sameIndent⟩
  · rintro ⟨states, sameLine, sameIndent⟩
    exact ⟨states, sameLine, sameIndent⟩

namespace Document

variable {text : String} {document : Document}

/-- What a text without tabs is read as derives from its lines. -/
theorem ofText_eq_ok_iff_derives
    (noTab : '\t' ∉ text.toList) :
    ofText text = .ok document ↔ Derives (spokenLines text.toList) document := by
  rw [ofText_eq_ok_iff, statementLines_eq_spokenLines]
  constructor
  · rintro ⟨-, first, others, listed, stated, numbered, entries⟩
    rw [NumberedLine.statement_eq_ok_iff, Statement.ofLine_eq_ok_iff] at stated
    have below : List.Forall₂ Entry.Derives others document.entries :=
      entries.imp fun line entry => NumberedLine.entry_eq_ok_iff_derives.mp
    rw [listed]
    obtain ⟨rankingLine, items, entries⟩ := document
    cases numbered
    exact .document stated below
  · intro derives
    generalize listed : spokenLines text.toList = lines at derives
    cases derives with
    | document ranking below =>
        refine ⟨firstTab?_eq_none_iff.mpr noTab, _, _, rfl, ?_, rfl, ?_⟩
        · rw [NumberedLine.statement_eq_ok_iff, Statement.ofLine_eq_ok_iff]
          exact ranking
        · exact below.imp fun line entry => NumberedLine.entry_eq_ok_iff_derives.mpr

/-- Lines that derive statements other than rankings make entries. -/
theorem exists_entries
    {lines : List NumberedLine}
    (derive : ∀ line ∈ lines, ∃ statement, Statement.DerivesLine line.characters statement)
    (noRanking :
      ∀ line ∈ lines, ∀ items, ¬ Statement.DerivesLine line.characters (.ranking items)) :
    ∃ entries, List.Forall₂ Entry.Derives lines entries := by
  induction lines with
  | nil => exact ⟨[], .nil⟩
  | cons line lines inductionHypothesis =>
      rw [List.forall_mem_cons] at derive noRanking
      obtain ⟨entries, below⟩ := inductionHypothesis derive.2 noRanking.2
      obtain ⟨statement, derives⟩ := derive.1
      cases statement with
      | ranking items => exact absurd derives (noRanking.1 items)
      | clause clause =>
          exact ⟨⟨line.number, line.indent, clause⟩ :: entries, .cons ⟨derives, rfl, rfl⟩ below⟩

/-- The texts that documents derive from are the grammatical ones. -/
theorem exists_derives_iff_grammatical
    {text : List Char} :
    (∃ document, Derives (spokenLines text) document) ↔ Grammatical text := by
  constructor
  · rintro ⟨document, derives⟩
    generalize listed : spokenLines text = lines at derives
    cases derives with
    | document ranking below =>
        rename_i first others items entries
        refine ⟨first, others, listed, ?_, ⟨items, ranking⟩, ?_⟩
        · refine List.forall_mem_cons.mpr ⟨⟨_, ranking⟩, fun line member => ?_⟩
          obtain ⟨entry, -, derives⟩ := exists_related_of_mem below.flip member
          exact ⟨_, derives.states⟩
        · intro line member items otherwise
          obtain ⟨entry, -, derives⟩ := exists_related_of_mem below.flip member
          cases derives.states.unique otherwise
  · rintro ⟨first, others, listed, derive, ⟨items, ranking⟩, noRanking⟩
    rw [listed]
    obtain ⟨entries, below⟩ := exists_entries (List.forall_mem_cons.mp derive).2 noRanking
    exact ⟨_, .document ranking below⟩

/--
A text without tabs reads as a document exactly when it is grammatical, and as
the document that derives from its lines.
-/
theorem exists_ofText_iff_grammatical_and_derives
    (text : String)
    (noTab : '\t' ∉ text.toList) :
    ((∃ document, ofText text = .ok document) ↔ Grammatical text.toList) ∧
      ∀ document, ofText text = .ok document ↔ Derives (spokenLines text.toList) document := by
  refine ⟨?_, fun document => ofText_eq_ok_iff_derives noTab⟩
  rw [← exists_derives_iff_grammatical]
  exact exists_congr fun document => ofText_eq_ok_iff_derives noTab

/-- Spaces wherever the grammar has them, lists that go on by spaces, and comments. -/
def spacedText : String :=
  "\n  // the rules\npriority : criterium( t,s c  b , a m g ) , last-line#\n" ++
    "  m  !book#1 a  +  t  x :l a  r  b # both\n g child\nfallback-policy :# none\n"

/-- The spaced text is grammatical, as it is read. -/
theorem grammatical_spacedText :
    '\t' ∉ spacedText.toList ∧ Grammatical spacedText.toList ∧
      ∃ document, Derives (spokenLines spacedText.toList) document := by
  have noTab : '\t' ∉ spacedText.toList := by decide +kernel
  have accepted : (ofText spacedText).isOk = true := by decide +kernel
  obtain ⟨grammatical, derives⟩ := exists_ofText_iff_grammatical_and_derives spacedText noTab
  cases read : ofText spacedText with
  | error error =>
      rw [read] at accepted
      cases accepted
  | ok document =>
      exact ⟨noTab, grammatical.mp ⟨document, read⟩, document, (derives document).mp read⟩

end Document

end LendingRules
