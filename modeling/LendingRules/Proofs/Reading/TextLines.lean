import LendingRules.Text.Lines

namespace LendingRules

/-!
# Lines and the segments they are cut from

The lines of a text are its segments between line feeds, except that they may
lose a carriage return and that an empty rest is no line. So the characters of
a line are characters of the text, and they stand in the line where they stand
in the segment.
-/

/-- A line that is not ended goes on with the first segment of what follows. -/
theorem exists_segments_append
    {line : List Char}
    (noFeed : '\n' ∉ line)
    (rest : List Char) :
    ∃ segment others, segments rest = segment :: others ∧
      segments (line ++ rest) = (line ++ segment) :: others := by
  induction line with
  | nil =>
      obtain ⟨segment, others, cut⟩ := List.exists_cons_of_ne_nil (segments_ne_nil rest)
      exact ⟨segment, others, cut, cut⟩
  | cons character line inductionHypothesis =>
      simp only [List.mem_cons, not_or] at noFeed
      obtain ⟨segment, others, cut, cutAppend⟩ := inductionHypothesis noFeed.2
      refine ⟨segment, others, cut, ?_⟩
      rw [List.cons_append, segments.eq_3 _ _ fun same => noFeed.1 same.symm, cutAppend]
      rfl

/-- No line feed is left in the segments of a text. -/
theorem newline_not_mem_of_segments
    {text segment : List Char}
    (member : segment ∈ segments text) :
    '\n' ∉ segment := by
  fun_induction segments text generalizing segment with
  | case1 => simp_all
  | case2 rest inductionHypothesis =>
      rcases List.mem_cons.mp member with rfl | later
      · exact List.not_mem_nil
      · exact inductionHypothesis later
  | case3 first rest feed cut inductionHypothesis => exact absurd cut (segments_ne_nil rest)
  | case4 first rest feed cutSegment others cut inductionHypothesis =>
      rw [cut] at inductionHypothesis
      rcases List.mem_cons.mp member with rfl | later
      · have behind := inductionHypothesis List.mem_cons_self
        have notFeed : '\n' ≠ first := fun same => feed same.symm
        simp [notFeed, behind]
      · exact inductionHypothesis (List.mem_cons_of_mem _ later)

/-- The characters of a line are those of a segment. -/
theorem exists_segment_of_linesOfSegments
    {cuts : List (List Char)}
    {line : List Char}
    (member : line ∈ linesOfSegments cuts) :
    ∃ segment ∈ cuts, line ⊆ segment := by
  fun_induction linesOfSegments cuts with
  | case1 => cases member
  | case2 => cases member
  | case3 unterminated present =>
      cases List.mem_singleton.mp member
      exact ⟨line, List.mem_cons_self, List.Subset.refl line⟩
  | case4 terminated others more inductionHypothesis =>
      rcases List.mem_cons.mp member with rfl | later
      · refine ⟨terminated, List.mem_cons_self, ?_⟩
        unfold dropReturn
        split
        · exact List.dropLast_subset terminated
        · exact List.Subset.refl terminated
      · obtain ⟨segment, segmentMember, included⟩ := inductionHypothesis later
        exact ⟨segment, List.mem_cons_of_mem _ segmentMember, included⟩

/-- A character of a line is no line feed, and one of the text. -/
theorem ne_newline_and_mem_of_mem_textLines
    {text line : List Char}
    {character : Char}
    (member : line ∈ textLines text)
    (listed : character ∈ line) :
    character ≠ '\n' ∧ character ∈ text := by
  obtain ⟨segment, segmentMember, included⟩ := exists_segment_of_linesOfSegments member
  have inSegment := included listed
  have notFeed : character ≠ '\n' := by
    rintro rfl
    exact newline_not_mem_of_segments segmentMember inSegment
  exact ⟨notFeed, (mem_segments_iff notFeed).mp ⟨segment, segmentMember, inSegment⟩⟩

/-- A line is cut off where its segment is, except for the carriage return it may lose. -/
theorem exists_line_of_segment
    {segment : List Char}
    {pieces : List (List Char)}
    {index : Nat}
    (stands : pieces[index]? = some segment)
    (present : segment ≠ []) :
    ∃ characters, (linesOfSegments pieces)[index]? = some characters ∧
      (characters = segment ∨ characters = dropReturn segment) := by
  fun_induction linesOfSegments pieces generalizing index with
  | case1 => cases stands
  | case2 unterminated empty =>
      have same := List.mem_singleton.mp (List.mem_of_getElem? stands)
      exact absurd (List.isEmpty_iff.mp empty) (same ▸ present)
  | case3 unterminated filled =>
      cases index with
      | zero => exact ⟨segment, stands, .inl rfl⟩
      | succ index => cases stands
  | case4 terminated others notLast inductionHypothesis =>
      cases index with
      | zero =>
          cases stands
          exact ⟨_, rfl, .inr rfl⟩
      | succ index => exact inductionHypothesis stands

/-- Losing a carriage return at the end does not move a tab. -/
theorem getElem?_dropReturn_of_tab
    {segment : List Char}
    {position : Nat}
    (tab : segment[position]? = some '\t') :
    (dropReturn segment)[position]? = some '\t' := by
  unfold dropReturn
  split
  · rename_i ended
    obtain ⟨inBounds, here⟩ := List.getElem?_eq_some_iff.mp tab
    have notLast : position ≠ segment.length - 1 := by
      rintro rfl
      rw [List.getLast?_eq_getElem?, tab] at ended
      cases ended
    rw [List.getElem?_dropLast, if_pos (by omega), tab]
  · exact tab

end LendingRules
