namespace LendingRules

/-!
# Lines of text

Text is cut at line feeds. A line that ends in a line feed may have a carriage
return before it, which is no part of the line; what follows the last line feed
is a line of its own only when it is not empty, and keeps a carriage return.
-/

/-- The pieces of a text between its line feeds; there is always at least one. -/
def segments : List Char → List (List Char)
  | [] => [[]]
  | '\n' :: rest => [] :: segments rest
  | character :: rest =>
      match segments rest with
      | [] => [[character]]
      | segment :: others => (character :: segment) :: others

/-- A line without the carriage return that may stand before its line feed. -/
def dropReturn (line : List Char) : List Char :=
  if line.getLast? = some '\r' then line.dropLast else line

/-- The lines of segments that were cut at line feeds. -/
def linesOfSegments : List (List Char) → List (List Char)
  | [] => []
  | [unterminated] => if unterminated.isEmpty then [] else [unterminated]
  | terminated :: others => dropReturn terminated :: linesOfSegments others

/-- The lines of a text. -/
def textLines (text : List Char) : List (List Char) :=
  linesOfSegments (segments text)

/-- A line and its number, counted from one. -/
structure NumberedLine where
  number : Nat
  characters : List Char
  deriving Repr, DecidableEq

/-- The lines of a text with their numbers. -/
def numberedLines (text : List Char) : List NumberedLine :=
  (textLines text).zipIdx.map fun (characters, index) =>
    { number := index + 1, characters }

/-- The line and column of the first tab, both counted from one. -/
def firstTab? (text : List Char) : Option (Nat × Nat) :=
  (segments text).zipIdx.findSome? fun (segment, index) =>
    (segment.findIdx? (· = '\t')).map fun position => (index + 1, position + 1)

theorem segments_ne_nil (text : List Char) : segments text ≠ [] := by
  fun_cases segments text <;> simp_all

/-- A line feed closes the first segment. -/
theorem segments_append_newline
    {line : List Char}
    (unbroken : '\n' ∉ line)
    (rest : List Char) :
    segments (line ++ '\n' :: rest) = line :: segments rest := by
  induction line with
  | nil => simp [segments]
  | cons character line inductionHypothesis =>
      simp only [List.mem_cons, not_or] at unbroken
      have notFeed : character ≠ '\n' := fun same => unbroken.1 same.symm
      rw [List.cons_append, segments.eq_3 _ _ notFeed,
        inductionHypothesis unbroken.2]

/-- Putting the line feeds back gives the text. -/
theorem intercalate_segments (text : List Char) :
    ['\n'].intercalate (segments text) = text := by
  fun_induction segments text with
  | case1 => rfl
  | case2 rest inductionHypothesis =>
      cases cut : segments rest with
      | nil => exact absurd cut (segments_ne_nil rest)
      | cons segment others =>
          rw [cut] at inductionHypothesis
          simp [← inductionHypothesis]
  | case3 character rest notFeed cut inductionHypothesis =>
      exact absurd cut (segments_ne_nil rest)
  | case4 character rest notFeed segment others cut inductionHypothesis =>
      rw [cut] at inductionHypothesis
      cases others <;> simp_all

/-- The segments hold all characters of the text but the line feeds. -/
theorem mem_segments_iff
    {text : List Char}
    {character : Char}
    (notFeed : character ≠ '\n') :
    (∃ segment ∈ segments text, character ∈ segment) ↔ character ∈ text := by
  fun_induction segments text with
  | case1 => simp
  | case2 rest inductionHypothesis => simp [notFeed, ← inductionHypothesis]
  | case3 first rest feed cut inductionHypothesis => exact absurd cut (segments_ne_nil rest)
  | case4 first rest feed segment others cut inductionHypothesis =>
      simp [← inductionHypothesis, cut, or_assoc]

/-- No tab is found exactly when there is none. -/
theorem firstTab?_eq_none_iff {text : List Char} : firstTab? text = none ↔ '\t' ∉ text := by
  have notFeed : '\t' ≠ '\n' := by decide
  rw [← mem_segments_iff notFeed, firstTab?, List.findSome?_eq_none_iff]
  simp only [Option.map_eq_none_iff, List.findIdx?_eq_none_iff, decide_eq_false_iff_not]
  constructor
  · rintro untabbed ⟨segment, member, tab⟩
    obtain ⟨index, stands⟩ := List.mem_iff_getElem?.mp member
    exact untabbed (segment, index) (List.mk_mem_zipIdx_iff_getElem?.mpr stands) '\t' tab rfl
  · rintro untabbed ⟨segment, index⟩ listed character inSegment rfl
    exact untabbed ⟨segment, List.fst_mem_of_mem_zipIdx listed, inSegment⟩

end LendingRules
