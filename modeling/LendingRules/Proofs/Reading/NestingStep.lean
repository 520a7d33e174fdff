import LendingRules.Proofs.Reading.LineMeaning
import Mathlib.Data.List.TakeWhile

namespace LendingRules

/-!
# One step of resolving indentation

Taking in an entry first leaves the frames that do not enclose it. The fallback
is taken outside all frames; a line of criteria opens a frame that adds its
criteria to the inherited ones. These facts say all that such a step can do.
-/

namespace Frame

/-- Whether the frame is a header in which nothing has been nested. -/
def Childless (frame : Frame) : Prop :=
  frame.isHeader = true ∧ frame.hasNested = false

theorem close_eq_ok_iff {frame : Frame} :
    frame.close = .ok () ↔ ¬ frame.Childless := by
  unfold close Childless
  cases frame.isHeader <;> cases frame.hasNested <;> simp

/-- The frames left open are those from the first that is indented less. -/
theorem closeFrom_eq_ok_iff
    {indent : Nat}
    {frames kept : List Frame} :
    closeFrom indent frames = .ok kept ↔
      (∀ frame ∈ frames.takeWhile fun frame => indent ≤ frame.indent,
          ¬ frame.Childless) ∧
        kept = frames.dropWhile fun frame => indent ≤ frame.indent := by
  induction frames with
  | nil => simp [closeFrom, eq_comm]
  | cons frame outer inductionHypothesis =>
      unfold closeFrom
      by_cases deep : indent ≤ frame.indent
      · simp only [deep, ↓reduceIte, bind_eq_ok_iff, inductionHypothesis,
          decide_true, List.takeWhile_cons_of_pos, List.dropWhile_cons_of_pos,
          List.forall_mem_cons]
        constructor
        · rintro ⟨⟨⟩, closed, others, rfl⟩
          exact ⟨⟨close_eq_ok_iff.mp closed, others⟩, rfl⟩
        · rintro ⟨⟨closed, others⟩, rfl⟩
          exact ⟨(), close_eq_ok_iff.mpr closed, others, rfl⟩
      · simp [deep, eq_comm]

/-- No frame is left open by an unindented line. -/
theorem closeFrom_zero_eq_ok_iff {frames kept : List Frame} :
    closeFrom 0 frames = .ok kept ↔
      (∀ frame ∈ frames, ¬ frame.Childless) ∧ kept = [] := by
  have all : ∀ frame ∈ frames, decide (0 ≤ frame.indent) = true := by simp
  rw [closeFrom_eq_ok_iff, List.takeWhile_eq_self_iff.mpr all,
    List.dropWhile_eq_nil_iff.mpr all]

end Frame

namespace Nesting

/--
The fallback stands unindented, once, and outside all frames, since every frame
closes before it.
-/
theorem add_fallback_eq_ok_iff
    {nesting next : Nesting}
    {line indent : Nat}
    {list : PolicyList}
    {rule? : Option Rule} :
    nesting.add ⟨line, indent, .fallback list⟩ = .ok (rule?, next) ↔
      indent = 0 ∧
        (∀ frame ∈ nesting.frames, ¬ frame.Childless) ∧
          nesting.hasFallback = false ∧
            ∃ policies, list.policies line = .ok policies ∧
              rule? = some ⟨.fallback, policies, line⟩ ∧ next = ⟨[], true⟩ := by
  simp only [add, bind_eq_ok_iff, addFallback]
  cases indent with
  | succ indent => simp
  | zero =>
      simp only [Frame.closeFrom_zero_eq_ok_iff, Nat.lt_irrefl, ↓reduceIte]
      cases given : nesting.hasFallback with
      | true => simp
      | false =>
          simp only [Bool.false_eq_true, ↓reduceIte, bind_eq_ok_iff, pure,
            Except.pure, Except.ok.injEq, Prod.mk.injEq]
          constructor
          · rintro ⟨kept, ⟨closed, rfl⟩, policies, accepted, rfl, rfl⟩
            exact ⟨trivial, closed, trivial, policies, accepted, rfl, rfl⟩
          · rintro ⟨-, closed, -, policies, accepted, rfl, rfl⟩
            exact ⟨[], ⟨closed, rfl⟩, policies, accepted, rfl, rfl⟩

/-- The frames left open when a line of the given indentation is reached. -/
def openAt (nesting : Nesting) (indent : Nat) : List Frame :=
  nesting.frames.dropWhile fun frame => indent ≤ frame.indent

/-- The rule that a line of criteria gives when it assigns policies. -/
def ruleOf? (criteria : List Criterion) (line : Nat) : Option PolicyList → Option Rule :=
  Option.map fun list => ⟨.allOf criteria, list.meaning, line⟩

/--
A line of criteria adds its own to those of the innermost frame left open, and
opens a frame with all of them.
-/
theorem add_criteria_eq_ok_iff
    {nesting next : Nesting}
    {line indent : Nat}
    {tokens : List CriterionToken}
    {list? : Option PolicyList}
    {rule? : Option Rule} :
    nesting.add ⟨line, indent, .criteria tokens list?⟩ = .ok (rule?, next) ↔
      (∀ frame ∈ nesting.frames.takeWhile fun frame => indent ≤ frame.indent,
          ¬ frame.Childless) ∧
        ∃ criteria,
          CriterionToken.extend line (Frame.inherited (nesting.openAt indent)) tokens =
              .ok criteria ∧
            (∀ list ∈ list?, ∃ policies, list.policies line = .ok policies) ∧
              rule? = ruleOf? criteria line list? ∧
                next =
                  ⟨⟨line, indent, criteria, list?.isNone, false⟩ ::
                      Frame.markNested (nesting.openAt indent),
                    nesting.hasFallback⟩ := by
  simp only [add, bind_eq_ok_iff, Frame.closeFrom_eq_ok_iff, addCriteria, openAt]
  cases list? with
  | none =>
      simp only [pure, Except.pure, bind_eq_ok_iff, Except.ok.injEq, Prod.mk.injEq]
      constructor
      · rintro ⟨kept, ⟨closed, rfl⟩, criteria, extended, rule?', rfl, rfl, rfl⟩
        exact ⟨closed, criteria, extended, by simp, rfl, rfl⟩
      · rintro ⟨closed, criteria, extended, -, rfl, rfl⟩
        exact ⟨_, ⟨closed, rfl⟩, criteria, extended, none, rfl, rfl, rfl⟩
  | some list =>
      simp only [pure, Except.pure, bind_eq_ok_iff, Except.ok.injEq, Prod.mk.injEq,
        PolicyList.policies_eq_ok_iff]
      constructor
      · rintro ⟨kept, ⟨closed, rfl⟩, criteria, extended, policies,
          ⟨filled, distinct, rfl⟩, rule?', rfl, rfl, rfl⟩
        refine ⟨closed, criteria, extended, ?_, rfl, rfl⟩
        intro other member
        cases Option.mem_def.mp member
        exact ⟨_, filled, distinct, rfl⟩
      · rintro ⟨closed, criteria, extended, accepted, rfl, rfl⟩
        obtain ⟨policies, filled, distinct, -⟩ := accepted list rfl
        exact ⟨_, ⟨closed, rfl⟩, criteria, extended, _, ⟨filled, distinct, rfl⟩,
          _, rfl, rfl, rfl⟩

/-- Taking in a list of entries takes in the first and then the others. -/
theorem addAll_cons_eq_ok_iff
    {nesting last : Nesting}
    {entry : Entry}
    {rest : List Entry}
    {rules : List Rule} :
    nesting.addAll (entry :: rest) = .ok (rules, last) ↔
      ∃ rule? next others,
        nesting.add entry = .ok (rule?, next) ∧
          next.addAll rest = .ok (others, last) ∧ rules = rule?.toList ++ others := by
  simp only [addAll, bind_eq_ok_iff, pure, Except.pure, Except.ok.injEq, Prod.mk.injEq]
  constructor
  · rintro ⟨⟨rule?, next⟩, added, ⟨others, last'⟩, restAdded, rfl, rfl⟩
    exact ⟨rule?, next, others, added, restAdded, rfl⟩
  · rintro ⟨rule?, next, others, added, restAdded, rfl⟩
    exact ⟨(rule?, next), added, (others, last), restAdded, rfl, rfl⟩

end Nesting

namespace Document

/-- A document has rules when its entries are taken in and give a fallback. -/
theorem rules_eq_ok_iff {document : Document} {rules : List Rule} :
    document.rules = .ok rules ↔
      ∃ last, Nesting.start.addAll document.entries = .ok (rules, last) ∧
        (∀ frame ∈ last.frames, ¬ frame.Childless) ∧ last.hasFallback = true := by
  simp only [Document.rules, bind_eq_ok_iff, Frame.closeFrom_zero_eq_ok_iff]
  constructor
  · rintro ⟨⟨made, last⟩, added, kept, ⟨closed, rfl⟩, given⟩
    cases fallback : last.hasFallback with
    | false => simp [fallback] at given
    | true =>
        simp only [fallback, ↓reduceIte, pure, Except.pure, Except.ok.injEq] at given
        exact ⟨last, given ▸ added, closed, fallback⟩
  · rintro ⟨last, added, closed, fallback⟩
    refine ⟨(rules, last), added, [], ⟨closed, rfl⟩, ?_⟩
    simp [fallback, pure, Except.pure]

end Document

end LendingRules
