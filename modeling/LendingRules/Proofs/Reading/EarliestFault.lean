import LendingRules.Proofs.Reading.EntryFaults

namespace LendingRules

/-!
# The earliest fault

Walking down the entries stops at the earliest fault. A header is only found to
be empty when the walk leaves its frame, which a later entry causes. That comes
before anything is said about the later entry itself, and no other entry lies in
between: of the open frames only the innermost, that of the latest entry, can
still be without anything nested in it.
-/

namespace Frame

/-- Leaving frames fails at one that is a header with nothing nested in it. -/
theorem exists_childless_of_closeFrom_eq_error
    {indent : Nat}
    {frames : List Frame}
    {error : RuleError}
    (failed : closeFrom indent frames = .error error) :
    ∃ frame ∈ frames, indent ≤ frame.indent ∧ frame.Childless ∧
      error = ⟨frame.line, frame.indent + 1, .policyMissing⟩ := by
  induction frames with
  | nil => cases failed
  | cons frame outer inductionHypothesis =>
      unfold closeFrom at failed
      split at failed
      · rename_i deep
        rcases bind_eq_error_iff.mp failed with notClosed | ⟨_, -, failed⟩
        · unfold close at notClosed
          split at notClosed
          · rename_i childless
            cases notClosed
            exact ⟨frame, List.mem_cons_self, deep, by simpa [Childless] using childless, rfl⟩
          · cases notClosed
        · obtain ⟨found, member, rest⟩ := inductionHypothesis failed
          exact ⟨found, List.mem_cons_of_mem _ member, rest⟩
      · cases failed

/-- Frames with something nested in each but the innermost have it in that one, too. -/
theorem not_childless_of_mem_markNested
    {frames : List Frame}
    (nested : ∀ frame ∈ frames.tail, ¬ frame.Childless) :
    ∀ frame ∈ markNested frames, ¬ frame.Childless := by
  cases frames with
  | nil => exact fun frame member => nomatch member
  | cons innermost outer =>
      refine List.forall_mem_cons.mpr ⟨?_, nested⟩
      rintro ⟨-, unnested⟩
      cases unnested

end Frame

/--
The earliest entry with a fault has the fault that an error tells, on the line
that it tells.
-/
structure Entry.EarliestFault
    (entries : List Entry)
    (position : Nat)
    (error : RuleError) : Prop where
  stands : ∃ entry, entries[position]? = some entry ∧ error.line = entry.line
  fault : Entry.Fault entries position error.problem
  earliest : ∀ earlier < position, ∀ problem, ¬ Entry.Fault entries earlier problem

namespace Nesting

variable {nesting next last : Nesting} {earlier rest : List Entry} {entry : Entry}

/--
What the frames say about the entries taken in so far, latest first: only the
innermost frame can be a header with nothing nested in it, and it is one exactly
when the latest entry is a header.
-/
structure Reached (nesting : Nesting) (earlier : List Entry) : Prop where
  tracks : nesting.Tracks earlier
  fallback : nesting.hasFallback = earlier.any Entry.isFallback
  nested : ∀ frame ∈ nesting.frames.tail, ¬ frame.Childless
  childless : ∀ frame ∈ nesting.frames, frame.Childless →
    ∃ tokens before, earlier = ⟨frame.line, frame.indent, .criteria tokens none⟩ :: before
  header : ∀ line indent tokens before,
    earlier = ⟨line, indent, .criteria tokens none⟩ :: before →
      ∃ frame ∈ nesting.frames.head?, frame.Childless ∧ frame.indent = indent

theorem reached_start : start.Reached [] where
  tracks := tracks_start
  fallback := rfl
  nested := by simp [start]
  childless := by simp [start]
  header := by simp

/-- Taking in an entry keeps what the frames say. -/
theorem Reached.add
    (reached : nesting.Reached earlier)
    {rule? : Option Rule}
    (added : nesting.add entry = .ok (rule?, next)) :
    next.Reached (entry :: earlier) := by
  rcases entry with ⟨line, indent, clause⟩
  cases clause with
  | fallback list =>
      have tracks := (reached.tracks.add_fallback added).1
      obtain ⟨-, -, -, -, -, -, rfl⟩ := add_fallback_eq_ok_iff.mp added
      exact
        { tracks
          fallback := by simp [Entry.isFallback]
          nested := by simp
          childless := by simp
          header := by simp }
  | criteria tokens list? =>
      have tracks := (reached.tracks.add_criteria added).1
      obtain ⟨-, criteria, -, -, -, rfl⟩ := add_criteria_eq_ok_iff.mp added
      have kept : (nesting.openAt indent).tail.Sublist nesting.frames.tail :=
        (List.dropWhile_sublist _).tail
      have nested := Frame.not_childless_of_mem_markNested fun frame member =>
        reached.nested frame (kept.subset member)
      exact
        { tracks
          fallback := by simp [Entry.isFallback, reached.fallback]
          nested
          childless := by
            intro frame member childless
            rcases List.mem_cons.mp member with rfl | outer
            · obtain ⟨headerOnly, -⟩ := childless
              cases list? with
              | none => exact ⟨tokens, earlier, rfl⟩
              | some list => cases headerOnly
            · exact absurd childless (nested frame outer)
          header := by
            intro _ _ _ _ same
            cases same
            exact ⟨_, rfl, ⟨rfl, rfl⟩, rfl⟩ }

/-- The indentation that comes next; the end of a document counts as unindented. -/
def nextIndent (rest : List Entry) : Nat :=
  rest.head?.elim 0 Entry.indent

theorem nextIndent_le_iff {bound : Nat} :
    nextIndent rest ≤ bound ↔ ∀ next, rest.head? = some next → next.indent ≤ bound := by
  cases rest with
  | nil => simp [nextIndent]
  | cons next rest => simp [nextIndent]

theorem getElem?_next (earlier rest : List Entry) :
    (earlier.reverse ++ rest)[earlier.length]? = rest.head? := by
  simp [List.getElem?_append_right, List.head?_eq_getElem?]

/--
Of the entries taken in, only the latest can have a fault, that of a header of
which it is not yet known whether anything is nested in it.
-/
def Settled (earlier rest : List Entry) : Prop :=
  ∀ position < earlier.length, ∀ problem,
    Entry.Fault (earlier.reverse ++ rest) position problem →
      position + 1 = earlier.length ∧ problem = .policyMissing

/-- When all frames close, the entries taken in have no fault at all. -/
theorem Reached.faultless_of_closed
    (reached : nesting.Reached earlier)
    (settled : Settled earlier rest)
    {kept : List Frame}
    (closed : Frame.closeFrom (nextIndent rest) nesting.frames = .ok kept) :
    ∀ position < earlier.length, ∀ problem,
      ¬ Entry.Fault (earlier.reverse ++ rest) position problem := by
  intro position before problem fault
  obtain ⟨latest, rfl⟩ := settled position before problem fault
  obtain ⟨line, indent, tokens, stands, unfollowed⟩ := Entry.unfollowed_of_fault fault
  rw [latest, getElem?_next] at unfollowed
  cases earlier with
  | nil => cases latest
  | cons header before =>
      cases Nat.succ.inj latest
      have same : some header = some ⟨line, indent, .criteria tokens none⟩ := by
        rw [← stands]
        simp
      cases same
      obtain ⟨frame, innermost, childless, rfl⟩ := reached.header _ _ _ _ rfl
      obtain ⟨outer, shape⟩ := List.head?_eq_some_iff.mp innermost
      have left : frame ∈ nesting.frames.takeWhile fun frame => nextIndent rest ≤ frame.indent := by
        rw [shape, List.takeWhile_cons_of_pos (by simpa using nextIndent_le_iff.mpr unfollowed)]
        exact List.mem_cons_self
      exact (Frame.closeFrom_eq_ok_iff.mp closed).1 frame left childless

/-- When a frame does not close, the latest entry is an empty header. -/
theorem Reached.earliestFault_of_closeFrom_eq_error
    (reached : nesting.Reached earlier)
    (settled : Settled earlier rest)
    {error : RuleError}
    (failed : Frame.closeFrom (nextIndent rest) nesting.frames = .error error) :
    Entry.EarliestFault (earlier.reverse ++ rest) (earlier.length - 1) error := by
  obtain ⟨frame, member, deep, childless, rfl⟩ :=
    Frame.exists_childless_of_closeFrom_eq_error failed
  obtain ⟨tokens, before, rfl⟩ := reached.childless frame member childless
  have stands :
      ((⟨frame.line, frame.indent, .criteria tokens none⟩ :: before).reverse ++ rest)[
        before.length]? = some ⟨frame.line, frame.indent, .criteria tokens none⟩ := by
    simp
  refine ⟨⟨_, stands, rfl⟩, .emptyHeader stands ?_, ?_⟩
  · intro next follows
    have isNext : rest.head? = some next := by
      rw [← follows]
      exact (getElem?_next _ rest).symm
    exact nextIndent_le_iff.mp deep next isNext
  · intro position earlier problem fault
    have latest := (settled position (Nat.lt_succ_of_lt earlier) problem fault).1
    exact absurd latest (Nat.ne_of_lt (Nat.succ_lt_succ earlier))

/--
An entry has a fault where it stands when it has one where it is taken in, or is
a header that what comes next is not nested in.
-/
theorem Reached.fault_iff
    (reached : nesting.Reached earlier)
    {problem : RuleProblem} :
    Entry.Fault (earlier.reverse ++ entry :: rest) earlier.length problem ↔
      EntryFault { nesting with frames := nesting.openAt entry.indent } entry problem ∨
        problem = .policyMissing ∧ entry.policies? = none ∧ nextIndent rest ≤ entry.indent := by
  have stands : (earlier.reverse ++ entry :: rest)[earlier.length]? = some entry :=
    getElem?_next earlier (entry :: rest)
  have follows : (earlier.reverse ++ entry :: rest)[earlier.length + 1]? = rest.head? := by
    simpa using getElem?_next (entry :: earlier) rest
  obtain ⟨chain, enclosers, inherited⟩ := exists_enclosers_next earlier entry rest
  rw [← (reached.tracks.openAt entry.indent).inherited] at inherited
  rcases entry with ⟨line, indent, clause⟩
  cases clause with
  | fallback list =>
      rw [Entry.fault_fallback_iff stands]
      simp [EntryFault, reached.fallback, Entry.policies?]
  | criteria tokens list? =>
      rw [Entry.fault_criteria_iff stands enclosers, inherited, follows, nextIndent_le_iff]
      simp [EntryFault, Entry.policies?, or_assoc]

/-- An entry that is not taken in shows the earliest fault. -/
theorem Reached.earliestFault_of_add_eq_error
    (reached : nesting.Reached earlier)
    (settled : Settled earlier (entry :: rest))
    {error : RuleError}
    (failed : nesting.add entry = .error error) :
    ∃ position, Entry.EarliestFault (earlier.reverse ++ entry :: rest) position error := by
  rcases bind_eq_error_iff.mp failed with notClosed | ⟨kept, closed, failed⟩
  · exact ⟨_, reached.earliestFault_of_closeFrom_eq_error settled notClosed⟩
  · have faultless := reached.faultless_of_closed settled closed
    obtain ⟨-, rfl⟩ := Frame.closeFrom_eq_ok_iff.mp closed
    obtain ⟨sameLine, fault⟩ := (judges_entry _ entry).fault_of_error error failed
    have stands := getElem?_next earlier (entry :: rest)
    exact ⟨_, ⟨entry, stands, sameLine⟩, reached.fault_iff.mpr (.inl fault), faultless⟩

/-- An entry that is taken in is settled but for what comes next. -/
theorem Reached.settled_add
    (reached : nesting.Reached earlier)
    (settled : Settled earlier (entry :: rest))
    {rule? : Option Rule}
    (added : nesting.add entry = .ok (rule?, next)) :
    Settled (entry :: earlier) rest := by
  obtain ⟨kept, closed, taken⟩ := bind_eq_ok_iff.mp added
  have faultless := reached.faultless_of_closed settled closed
  obtain ⟨-, rfl⟩ := Frame.closeFrom_eq_ok_iff.mp closed
  have sameEntries :
      (entry :: earlier).reverse ++ rest = earlier.reverse ++ entry :: rest := by
    simp
  intro position before problem fault
  rw [sameEntries] at fault
  rcases Nat.lt_succ_iff_lt_or_eq.mp before with earlierPosition | rfl
  · exact absurd fault (faultless position earlierPosition problem)
  · rcases reached.fault_iff.mp fault with entryFault | ⟨missing, -⟩
    · exact absurd entryFault ((judges_entry _ entry).faultless_of_ok _ taken problem)
    · exact ⟨rfl, missing⟩

/-- Walking down the entries stops at the earliest fault, or reaches the last entry. -/
theorem Reached.addAll
    (reached : nesting.Reached earlier)
    (settled : Settled earlier rest) :
    (∃ error position, nesting.addAll rest = .error error ∧
      Entry.EarliestFault (earlier.reverse ++ rest) position error) ∨
      ∃ rules last, nesting.addAll rest = .ok (rules, last) ∧
        last.Reached (rest.reverse ++ earlier) ∧ Settled (rest.reverse ++ earlier) [] := by
  induction rest generalizing nesting earlier with
  | nil => exact .inr ⟨[], nesting, rfl, reached, settled⟩
  | cons entry rest inductionHypothesis =>
      have sameEntries :
          (entry :: earlier).reverse ++ rest = earlier.reverse ++ entry :: rest := by
        simp
      cases added : nesting.add entry with
      | error error =>
          obtain ⟨position, fault⟩ := reached.earliestFault_of_add_eq_error settled added
          refine .inl ⟨error, position, ?_, fault⟩
          exact bind_eq_error_iff.mpr (.inl added)
      | ok taken =>
          obtain ⟨rule?, next⟩ := taken
          rcases inductionHypothesis (reached.add added) (reached.settled_add settled added) with
            ⟨error, position, failed, fault⟩ | ⟨rules, last, restAdded, lastReached, lastSettled⟩
          · refine .inl ⟨error, position, ?_, sameEntries ▸ fault⟩
            refine bind_eq_error_iff.mpr (.inr ⟨_, added, ?_⟩)
            exact bind_eq_error_iff.mpr (.inl failed)
          · refine .inr ⟨rule?.toList ++ rules, last, ?_, ?_, ?_⟩
            · exact addAll_cons_eq_ok_iff.mpr ⟨rule?, next, rules, added, restAdded, rfl⟩
            · simpa using lastReached
            · simpa using lastSettled

end Nesting

namespace Entry

variable {entries : List Entry} {position : Nat}

theorem exists_of_fault
    {problem : RuleProblem}
    (fault : Fault entries position problem) :
    ∃ entry, entries[position]? = some entry := by
  cases fault with
  | indentedFallback stands | repeatedFallback stands | policies stands | repeatedOnLine stands
  | repeatedInside stands | mixedNegation stands | emptyHeader stands => exact ⟨_, stands⟩

/-- A missing fallback is the fault of no entry. -/
theorem not_fault_fallbackMissing : ¬ Fault entries position .fallbackMissing := by
  intro fault
  cases fault with
  | policies stands carries fault => cases fault

end Entry

namespace Document

/--
The rules of a document are had unless an entry has a fault, when the earliest
is told, or else the fallback is missing.
-/
theorem rules_or_fault (document : Document) :
    (∃ error position, document.rules = .error error ∧
      Entry.EarliestFault document.entries position error) ∨
      (∀ position problem, ¬ Entry.Fault document.entries position problem) ∧
        (document.entries.any Entry.isFallback = false ∧
            document.rules = .error ⟨document.lastLine + 1, 1, .fallbackMissing⟩ ∨
          document.entries.any Entry.isFallback = true ∧
            ∃ rules, document.rules = .ok rules) := by
  have settledStart : Nesting.Settled [] document.entries :=
    fun position before => absurd before (Nat.not_lt_zero position)
  rcases Nesting.reached_start.addAll settledStart with
    ⟨error, position, failed, fault⟩ | ⟨rules, last, added, reached, settled⟩
  · exact .inl ⟨error, position, bind_eq_error_iff.mpr (.inl failed), by simpa using fault⟩
  · cases closed : Frame.closeFrom 0 last.frames with
    | error error =>
        have fault := reached.earliestFault_of_closeFrom_eq_error settled closed
        refine .inl ⟨error, _, ?_, by simpa using fault⟩
        refine bind_eq_error_iff.mpr (.inr ⟨_, added, ?_⟩)
        exact bind_eq_error_iff.mpr (.inl closed)
    | ok kept =>
        have faultless := reached.faultless_of_closed settled closed
        refine .inr ⟨?_, ?_⟩
        · intro position problem fault
          obtain ⟨entry, stands⟩ := Entry.exists_of_fault fault
          obtain ⟨inBounds, -⟩ := List.getElem?_eq_some_iff.mp stands
          exact faultless position (by simpa using inBounds) problem (by simpa using fault)
        · have given : last.hasFallback = document.entries.any Entry.isFallback := by
            simpa using reached.fallback
          unfold Document.rules
          simp only [added, closed, given, bind, Except.bind]
          cases document.entries.any Entry.isFallback with
          | false => exact .inl ⟨rfl, rfl⟩
          | true => exact .inr ⟨rfl, rules, rfl⟩

/--
What is told of a document: one of its faults, on the earliest line that has
one. That the fallback is missing is told behind the last line, and only when
nothing else is wrong.
-/
structure Reports (document : Document) (error : RuleError) : Prop where
  fault : document.Fault error.line error.problem
  earliest : ∀ line problem, document.Fault line problem → error.line ≤ line
  fallbackMissing : error.problem = .fallbackMissing →
    error.line = document.lastLine + 1 ∧
      ∀ line problem, document.Fault line problem → problem = .fallbackMissing

theorem getLast?_lines (document : Document) :
    (document.rankingLine :: document.entries.map Entry.line).getLast? =
      some document.lastLine := by
  rw [List.getLast?_cons, List.getLast?_map]
  rfl

variable {text : String} {document : Document}

/-- No line of the document comes behind its last line. -/
theorem le_lastLine
    (read : ofText text = .ok document)
    {line : Nat}
    (member : line ∈ document.rankingLine :: document.entries.map Entry.line) :
    line ≤ document.lastLine := by
  have ascending := pairwise_lines read
  obtain ⟨before, shape⟩ := List.getLast?_eq_some_iff.mp document.getLast?_lines
  rw [shape] at member ascending
  rcases List.mem_append.mp member with earlier | same
  · exact Nat.le_of_lt
      ((List.pairwise_append.mp ascending).2.2 line earlier _ List.mem_cons_self)
  · exact Nat.le_of_eq (List.mem_singleton.mp same)

/-- A fault of the ranking line is told rightly, whatever else is wrong. -/
theorem reports_of_ranking_eq_error
    (read : ofText text = .ok document)
    {error : RuleError}
    (failed : document.ranking = .error error) :
    document.Reports error := by
  obtain ⟨sameLine, fault⟩ := document.judges_ranking.fault_of_error error failed
  refine ⟨sameLine ▸ .ranking fault, ?_, ?_⟩
  · intro line problem other
    rw [sameLine]
    cases other with
    | ranking => exact Nat.le_refl _
    | entry stands => exact Nat.le_of_lt (rankingLine_lt read (List.mem_of_getElem? stands))
    | fallbackMissing => exact Nat.le_succ_of_le (le_lastLine read List.mem_cons_self)
  · intro missing
    rw [missing] at fault
    cases fault with
    | letters member lists fault => cases fault

/-- The earliest fault of an entry is told rightly when the ranking has none. -/
theorem reports_of_earliestFault
    (read : ofText text = .ok document)
    (ranked : ∀ problem, ¬ RankingItem.Fault document.rankingItems problem)
    {error : RuleError}
    {position : Nat}
    (found : Entry.EarliestFault document.entries position error) :
    document.Reports error := by
  obtain ⟨entry, stands, sameLine⟩ := found.stands
  refine ⟨sameLine ▸ .entry stands found.fault, ?_, ?_⟩
  · intro line problem other
    rw [sameLine]
    cases other with
    | ranking fault => exact absurd fault (ranked problem)
    | entry otherStands otherFault =>
        rename_i otherPosition otherEntry
        rcases Nat.lt_trichotomy otherPosition position with before | rfl | behind
        · exact absurd otherFault (found.earliest otherPosition before problem)
        · cases stands.symm.trans otherStands
          exact Nat.le_refl _
        · obtain ⟨inBounds, rfl⟩ := List.getElem?_eq_some_iff.mp stands
          obtain ⟨otherInBounds, rfl⟩ := List.getElem?_eq_some_iff.mp otherStands
          exact Nat.le_of_lt
            (List.pairwise_iff_getElem.mp (pairwise_entries read) _ _ _ _ behind)
    | fallbackMissing =>
        have member : entry.line ∈ document.entries.map Entry.line :=
          List.mem_map_of_mem (List.mem_of_getElem? stands)
        exact Nat.le_succ_of_le (le_lastLine read (List.mem_cons_of_mem _ member))
  · intro missing
    have fault := found.fault
    rw [missing] at fault
    exact absurd fault Entry.not_fault_fallbackMissing

/-- That nothing but the fallback is missing is told rightly. -/
theorem reports_fallbackMissing
    (ranked : ∀ problem, ¬ RankingItem.Fault document.rankingItems problem)
    (faultless : ∀ position problem, ¬ Entry.Fault document.entries position problem)
    (missing : document.entries.any Entry.isFallback = false) :
    document.Reports ⟨document.lastLine + 1, 1, .fallbackMissing⟩ := by
  have only : ∀ line problem, document.Fault line problem →
      line = document.lastLine + 1 ∧ problem = .fallbackMissing := by
    intro line problem fault
    cases fault with
    | ranking fault => exact absurd fault (ranked problem)
    | entry stands fault => exact absurd fault (faultless _ problem)
    | fallbackMissing => exact ⟨rfl, rfl⟩
  exact
    { fault := .fallbackMissing (by simpa using missing)
      earliest := fun line problem fault => Nat.le_of_eq (only line problem fault).1.symm
      fallbackMissing := fun _ => ⟨rfl, fun line problem fault => (only line problem fault).2⟩ }

/-- A document without a fault makes a rulebook, and any other has its fault told. -/
theorem faultless_or_reports
    (read : ofText text = .ok document)
    (digest : Digest) :
    (∃ rulebook, document.rulebook digest = .ok rulebook) ∧
        (∀ line problem, ¬ document.Fault line problem) ∨
      ∃ error, document.rulebook digest = .error error ∧ document.Reports error := by
  cases ranked : document.ranking with
  | error error =>
      refine .inr ⟨error, ?_, reports_of_ranking_eq_error read ranked⟩
      exact bind_eq_error_iff.mpr (.inl ranked)
  | ok ranking =>
      have sound := document.judges_ranking.faultless_of_ok ranking ranked
      have rulebook_error (error : RuleError) (failed : document.rules = .error error) :
          document.rulebook digest = .error error :=
        bind_eq_error_iff.mpr (.inr ⟨ranking, ranked, bind_eq_error_iff.mpr (.inl failed)⟩)
      rcases document.rules_or_fault with
        ⟨error, position, failed, found⟩ | ⟨faultless, ⟨missing, failed⟩ | ⟨given, rules, made⟩⟩
      · exact .inr ⟨error, rulebook_error error failed, reports_of_earliestFault read sound found⟩
      · exact .inr ⟨_, rulebook_error _ failed, reports_fallbackMissing sound faultless missing⟩
      · refine .inl ⟨⟨.ofRules ranking rules digest, ?_⟩, ?_⟩
        · exact bind_eq_ok_iff.mpr ⟨ranking, ranked, bind_eq_ok_iff.mpr ⟨rules, made, rfl⟩⟩
        · intro line problem fault
          cases fault with
          | ranking fault => exact sound problem fault
          | entry stands fault => exact faultless _ problem fault
          | fallbackMissing missing =>
              obtain ⟨entry, member, fallback⟩ := List.any_eq_true.mp given
              rw [missing entry member] at fallback
              cases fallback

end Document

namespace Rulebook

/-- Text that reads as a document makes a rulebook exactly when that has no fault. -/
theorem exists_ofText_iff_faultless
    {text : String}
    {document : Document}
    (read : Document.ofText text = .ok document) :
    (∃ rulebook, ofText text = .ok rulebook) ↔
      ∀ line problem, ¬ document.Fault line problem := by
  unfold ofText
  rw [read]
  rcases Document.faultless_or_reports read (.ofText text) with
    ⟨⟨rulebook, made⟩, faultless⟩ | ⟨error, failed, reports⟩
  · simp [made, faultless]
  · have fault := reports.fault
    simp only [failed, reduceCtorEq, exists_false, false_iff]
    exact fun faultless => faultless _ _ fault

/--
Text that reads as a document is refused exactly when the document has a fault,
and what is told then is a fault on the earliest line that has one.
-/
theorem refused_iff_fault_and_reports
    {text : String}
    {document : Document}
    (read : Document.ofText text = .ok document) :
    ((∃ error, ofText text = .error error) ↔ ∃ line problem, document.Fault line problem) ∧
      ∀ error, ofText text = .error error →
        ∃ ruleError, error = .ruleError ruleError ∧ document.Reports ruleError := by
  unfold ofText
  rw [read]
  rcases Document.faultless_or_reports read (.ofText text) with
    ⟨⟨rulebook, made⟩, faultless⟩ | ⟨error, failed, reports⟩
  · simp [made, faultless]
  · simp only [failed, Except.error.injEq]
    refine ⟨iff_of_true ⟨_, rfl⟩ ⟨_, _, reports.fault⟩, ?_⟩
    rintro _ rfl
    exact ⟨error, rfl, reports⟩

/--
Text with an empty header, a facet constrained twice inside a later line, and no
fallback.
-/
def faultyText : String :=
  "priority: first-line

m book
m film: l short
  m film + g adult: l long
"

/-- Of the faults of that text, the empty header is told. -/
theorem reports_faultyText :
    ∃ document, Document.ofText faultyText = .ok document ∧
      ofText faultyText = .error (.ruleError ⟨3, 1, .policyMissing⟩) ∧
        document.Reports ⟨3, 1, .policyMissing⟩ := by
  have wellFormed : (Document.ofText faultyText).isOk = true := by decide +kernel
  have refused : ofText faultyText = .error (.ruleError ⟨3, 1, .policyMissing⟩) := by
    decide +kernel
  cases read : Document.ofText faultyText with
  | error error =>
      rw [read] at wellFormed
      cases wellFormed
  | ok document =>
      obtain ⟨ruleError, same, reports⟩ :=
        (refused_iff_fault_and_reports read).2 _ refused
      cases same
      exact ⟨document, rfl, refused, reports⟩

end Rulebook

end LendingRules
