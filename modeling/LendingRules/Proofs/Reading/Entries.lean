import LendingRules.Document.Basic
import LendingRules.Proofs.Reading.Success

namespace LendingRules

/-!
# Entries stand on their lines

A text that reads as a document has one statement on each line that is neither
blank nor a comment: first the ranking, then the entries in the order of their
lines. Each entry says what its line says.
-/

theorem readCriteria_shape
    {cursor after : Cursor}
    {clause : Clause}
    (read : readCriteria cursor = .ok (clause, after)) :
    ∃ first others list?, clause = .criteria (first :: others) list? := by
  obtain ⟨⟨first, behindFirst⟩, -, read⟩ := bind_eq_ok_iff.mp read
  obtain ⟨⟨others, behindCriteria⟩, -, read⟩ := bind_eq_ok_iff.mp read
  obtain ⟨list?, -, read⟩ := bind_eq_ok_iff.mp read
  split at read
  all_goals
    simp only [pure, Except.pure, Except.ok.injEq, Prod.mk.injEq] at read
    exact ⟨first, others, _, read.1.symm⟩

namespace Statement

theorem readFallback_shape
    {cursor after : Cursor}
    {clause : Clause}
    (read : readFallback cursor = .ok (clause, after)) :
    ∃ list, clause = .fallback list := by
  obtain ⟨list?, -, read⟩ := bind_eq_ok_iff.mp read
  split at read
  · simp at read
  · simp only [pure, Except.pure, Except.ok.injEq, Prod.mk.injEq] at read
    exact ⟨_, read.1.symm⟩

/-- The clause of a line of criteria has at least one criterion. -/
theorem criteria_ne_nil_of_ofLine
    {line : List Char}
    {tokens : List CriterionToken}
    {list? : Option PolicyList}
    (stated : ofLine line = .ok (.clause (.criteria tokens list?))) :
    tokens ≠ [] := by
  obtain ⟨⟨statement, after⟩, read, ended⟩ := bind_eq_ok_iff.mp stated
  dsimp only at ended
  split at ended
  · simp only [pure, Except.pure, Except.ok.injEq] at ended
    subst ended
    unfold Statement.read at read
    split at read
    · obtain ⟨ranking, -, made⟩ := bind_eq_ok_iff.mp read
      simp [pure, Except.pure] at made
    · split at read
      · obtain ⟨⟨clause, behind⟩, fallbackRead, made⟩ := bind_eq_ok_iff.mp read
        obtain ⟨list, rfl⟩ := readFallback_shape fallbackRead
        simp [pure, Except.pure] at made
      · obtain ⟨⟨clause, behind⟩, criteriaRead, made⟩ := bind_eq_ok_iff.mp read
        obtain ⟨first, others, list?, rfl⟩ := readCriteria_shape criteriaRead
        simp only [pure, Except.pure, Except.ok.injEq, Prod.mk.injEq, clause.injEq,
          Clause.criteria.injEq] at made
        obtain ⟨⟨rfl, -⟩, -⟩ := made
        simp
  · simp at ended

end Statement

namespace NumberedLine

theorem statement_eq_ok_iff {line : NumberedLine} {statement : Statement} :
    line.statement = .ok statement ↔ Statement.ofLine line.characters = .ok statement := by
  unfold NumberedLine.statement
  cases Statement.ofLine line.characters with
  | error fault => simp [Except.mapError]
  | ok stated => simp [Except.mapError]

/-- An entry states the clause of its line, with the number and indentation of it. -/
theorem entry_eq_ok_iff {line : NumberedLine} {entry : Entry} :
    line.entry = .ok entry ↔
      Statement.ofLine line.characters = .ok (.clause entry.clause) ∧
        entry.line = line.number ∧ entry.indent = line.indent := by
  simp only [NumberedLine.entry, bind_eq_ok_iff, statement_eq_ok_iff]
  constructor
  · rintro ⟨statement, stated, made⟩
    cases statement with
    | ranking items => simp at made
    | clause clause =>
        simp only [pure, Except.pure, Except.ok.injEq] at made
        subst made
        exact ⟨stated, rfl, rfl⟩
  · rintro ⟨stated, sameLine, sameIndent⟩
    refine ⟨_, stated, ?_⟩
    simp [pure, Except.pure, ← sameLine, ← sameIndent]

end NumberedLine

/-- The lines of a text that state something, in order. -/
def statementLines (text : List Char) : List NumberedLine :=
  (numberedLines text).filter NumberedLine.isStatement

/-- A numbered line is the line of the text with that number. -/
theorem mem_numberedLines {text : List Char} {line : NumberedLine} :
    line ∈ numberedLines text ↔
      ∃ index, line.number = index + 1 ∧
        (textLines text)[index]? = some line.characters := by
  simp only [numberedLines, List.mem_map, Prod.exists, List.mk_mem_zipIdx_iff_getElem?]
  constructor
  · rintro ⟨characters, index, stands, rfl⟩
    exact ⟨index, rfl, stands⟩
  · rintro ⟨index, numbered, stands⟩
    exact ⟨line.characters, index, stands, by rw [← numbered]⟩

/-- Lines are numbered upwards. -/
theorem pairwise_numberedLines (text : List Char) :
    (numberedLines text).Pairwise fun first second => first.number < second.number := by
  have positions :
      (textLines text).zipIdx.Pairwise fun first second => first.2 < second.2 := by
    rw [← List.pairwise_map, List.zipIdx_map_snd]
    exact List.pairwise_lt_range'
  rw [numberedLines, List.pairwise_map]
  exact positions.imp fun ascending => Nat.succ_lt_succ ascending

/-- An entry says what its line of the text says. -/
structure Entry.StandsIn (entry : Entry) (text : List Char) : Prop where
  stands : ∃ index characters,
    entry.line = index + 1 ∧
      (textLines text)[index]? = some characters ∧
        Statement.ofLine characters = .ok (.clause entry.clause) ∧
          entry.indent = (characters.takeWhile (· = ' ')).length

namespace Document

/-- A document consists of the statements of the text, the ranking first. -/
theorem ofText_eq_ok_iff {text : String} {document : Document} :
    ofText text = .ok document ↔
      firstTab? text.toList = none ∧
        ∃ first others,
          statementLines text.toList = first :: others ∧
            first.statement = .ok (.ranking document.rankingItems) ∧
              document.rankingLine = first.number ∧
                List.Forall₂ (fun line entry => line.entry = .ok entry)
                  others document.entries := by
  unfold ofText statementLines
  dsimp only
  cases tab : firstTab? text.toList with
  | some place => simp
  | none =>
      cases listed : (numberedLines text.toList).filter NumberedLine.isStatement with
      | nil => simp [ofLines]
      | cons first others =>
          simp only [ofLines, bind_eq_ok_iff, List.cons.injEq, true_and]
          constructor
          · rintro ⟨statement, stated, made⟩
            cases statement with
            | clause clause => simp at made
            | ranking items =>
                obtain ⟨entries, read, made⟩ := bind_eq_ok_iff.mp made
                simp only [pure, Except.pure, Except.ok.injEq] at made
                subst made
                exact ⟨first, others, ⟨rfl, rfl⟩, stated, rfl, mapM_eq_ok_iff.mp read⟩
          · rintro ⟨_, _, ⟨rfl, rfl⟩, stated, numbered, read⟩
            refine ⟨_, stated, ?_⟩
            refine bind_eq_ok_iff.mpr ⟨_, mapM_eq_ok_iff.mpr read, ?_⟩
            simp [pure, Except.pure, ← numbered]

variable {text : String} {document : Document}

/-- Every entry of a document stands on its line of the text. -/
theorem entry_standsIn
    (read : ofText text = .ok document)
    {entry : Entry}
    (member : entry ∈ document.entries) :
    entry.StandsIn text.toList := by
  obtain ⟨-, first, others, listed, -, -, entries⟩ := ofText_eq_ok_iff.mp read
  obtain ⟨line, lineMember, lineRead⟩ := exists_related_of_mem entries member
  obtain ⟨stated, sameLine, sameIndent⟩ := NumberedLine.entry_eq_ok_iff.mp lineRead
  have numbered : line ∈ numberedLines text.toList := by
    have listedMember : line ∈ statementLines text.toList := by simp [listed, lineMember]
    exact List.mem_of_mem_filter listedMember
  obtain ⟨index, number, stands⟩ := mem_numberedLines.mp numbered
  exact ⟨index, line.characters, sameLine.trans number, stands, stated, sameIndent⟩

/-- The ranking line and the entries are the lines that state something. -/
theorem lines_eq
    (read : ofText text = .ok document) :
    document.rankingLine :: document.entries.map Entry.line =
      (statementLines text.toList).map NumberedLine.number := by
  obtain ⟨-, first, others, listed, -, numbered, entries⟩ := ofText_eq_ok_iff.mp read
  have sameLines :
      others.map NumberedLine.number = document.entries.map Entry.line := by
    rw [← List.forall₂_eq_eq_eq, List.forall₂_map_left_iff, List.forall₂_map_right_iff]
    refine entries.imp fun line entry lineRead => ?_
    exact (NumberedLine.entry_eq_ok_iff.mp lineRead).2.1.symm
  rw [listed, List.map_cons, numbered, sameLines]

/-- The ranking and the entries stand on ever later lines. -/
theorem pairwise_lines
    (read : ofText text = .ok document) :
    (document.rankingLine :: document.entries.map Entry.line).Pairwise
      fun first second => first < second := by
  rw [lines_eq read]
  exact List.pairwise_map.mpr ((pairwise_numberedLines text.toList).filter _)

/-- The entries stand on ever later lines. -/
theorem pairwise_entries
    (read : ofText text = .ok document) :
    document.entries.Pairwise fun first second => first.line < second.line :=
  List.pairwise_map.mp (pairwise_lines read).tail

/-- The ranking stands above every entry. -/
theorem rankingLine_lt
    (read : ofText text = .ok document)
    {entry : Entry}
    (member : entry ∈ document.entries) :
    document.rankingLine < entry.line :=
  List.rel_of_pairwise_cons (pairwise_lines read) (List.mem_map_of_mem member)

/-- Lines are counted from one. -/
theorem rankingLine_pos (read : ofText text = .ok document) : 0 < document.rankingLine := by
  obtain ⟨-, first, others, listed, -, numbered, -⟩ := ofText_eq_ok_iff.mp read
  have member : first ∈ numberedLines text.toList := by
    have listedMember : first ∈ statementLines text.toList := by simp [listed]
    exact List.mem_of_mem_filter listedMember
  obtain ⟨index, number, -⟩ := mem_numberedLines.mp member
  rw [numbered, number]
  exact Nat.succ_pos index

end Document

end LendingRules
