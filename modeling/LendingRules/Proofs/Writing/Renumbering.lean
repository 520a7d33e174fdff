import LendingRules.Proofs.Rulings.Matching
import LendingRules.Proofs.Writing.ReadBack

namespace LendingRules

open Std

/-!
# Rules on other lines

The lines of rules matter for ranking only by their order. When rules move to
other lines in the same order, each of them still decides the same requests and
ranks as before, so the rulings move along with the lines.
-/

namespace Rule

/-- The rule on another line. -/
def renumbered (renumber : Nat → Nat) (rule : Rule) : Rule :=
  { rule with line := renumber rule.line }

variable {renumber : Nat → Nat} {rule : Rule}

@[simp] theorem policies_renumbered : (rule.renumbered renumber).policies = rule.policies := rfl

@[simp] theorem isFallback_renumbered :
    (rule.renumbered renumber).isFallback = rule.isFallback := rfl

theorem decides_renumbered_iff {request : Request} {type : PolicyType} :
    (rule.renumbered renumber).Decides request type ↔ rule.Decides request type :=
  Iff.rfl

end Rule

/-- Whether rules keep their order when their lines change. -/
def KeepsOrder (renumber : Nat → Nat) (rules : List Rule) : Prop :=
  ∀ first ∈ rules, ∀ second ∈ rules,
    first.line < second.line → renumber first.line < renumber second.line

theorem KeepsOrder.compare_line
    {renumber : Nat → Nat}
    {rules : List Rule}
    (keeps : KeepsOrder renumber rules)
    {first second : Rule}
    (firstMember : first ∈ rules)
    (secondMember : second ∈ rules) :
    compare (renumber first.line) (renumber second.line) =
      compare first.line second.line := by
  rcases Nat.lt_trichotomy first.line second.line with before | same | behind
  · rw [Nat.compare_eq_lt.mpr before,
      Nat.compare_eq_lt.mpr (keeps first firstMember second secondMember before)]
  · rw [same, Nat.compare_eq_eq.mpr rfl, Nat.compare_eq_eq.mpr rfl]
  · rw [Nat.compare_eq_gt.mpr behind,
      Nat.compare_eq_gt.mpr (keeps second secondMember first firstMember behind)]

namespace Ranking

variable {renumber : Nat → Nat} {rules : List Rule} {first second : Rule}

/-- Rules that keep their order rank as before. -/
theorem compare_renumbered
    (ranking : Ranking)
    (keeps : KeepsOrder renumber rules)
    (firstMember : first ∈ rules)
    (secondMember : second ∈ rules) :
    ranking.compare (first.renumbered renumber) (second.renumbered renumber) =
      ranking.compare first second := by
  have key (key : RankingKey) :
      key.compare (first.renumbered renumber) (second.renumbered renumber) =
        key.compare first second := by
    cases key with
    | criteriaCount => rfl
    | precedence order => rfl
    | line preference =>
        cases preference with
        | firstLine => exact keeps.compare_line firstMember secondMember
        | lastLine => exact keeps.compare_line secondMember firstMember
  have keys (keys : List RankingKey) :
      lexicographic (keys.map RankingKey.compare) (first.renumbered renumber)
          (second.renumbered renumber) =
        lexicographic (keys.map RankingKey.compare) first second := by
    induction keys with
    | nil => rfl
    | cons leading others inductionHypothesis =>
        simp only [List.map_cons, lexicographic, List.foldr_cons, compareLex, key]
        exact congrArg _ inductionHypothesis
  simp only [compare, compareLex, compareOn, Rule.isFallback_renumbered, keys]

end Ranking

/-- The ruling of the rule on another line. -/
def Ruling.renumbered (renumber : Nat → Nat) (ruling : Ruling) : Ruling :=
  { ruling with line := renumber ruling.line }

theorem Ruling.ofRule?_renumbered
    (precedence : Precedence)
    (type : PolicyType)
    (renumber : Nat → Nat)
    (rule : Rule) :
    ofRule? precedence type (rule.renumbered renumber) =
      (ofRule? precedence type rule).map (Ruling.renumbered renumber) := by
  rw [ofRule?, ofRule?, Rule.policies_renumbered, Option.map_map]
  rfl

namespace Rulebook.Made

variable {built moved : Rulebook} {renumber : Nat → Nat}

/-- The candidates of a rulebook whose rules moved in order moved with them. -/
theorem candidates_renumbered
    (builtMade : built.Made)
    (movedMade : moved.Made)
    (keeps : KeepsOrder renumber built.rules)
    (sameRanking : moved.ranking = built.ranking)
    (movedRules : moved.rules = built.rules.map (Rule.renumbered renumber))
    (request : Request)
    (type : PolicyType) :
    moved.candidates request type =
      (built.candidates request type).map (Rule.renumbered renumber) := by
  have deciding :
      (built.rules.map (Rule.renumbered renumber)).filter
          (fun rule => rule.Decides request type) =
        (built.rules.filter fun rule => rule.Decides request type).map
          (Rule.renumbered renumber) := by
    simp only [List.filter_map, Function.comp_def, Rule.decides_renumbered_iff]
  have same :
      (moved.candidates request type).Perm
        ((built.candidates request type).map (Rule.renumbered renumber)) := by
    refine movedMade.candidates_perm.trans ?_
    rw [movedRules, deciding]
    exact builtMade.candidates_perm.symm.map _
  have movedOrder :
      (moved.candidates request type).Pairwise fun first second =>
        built.ranking.compare first second = .lt :=
    sameRanking ▸ movedMade.pairwise_candidates
  have builtOrder :
      ((built.candidates request type).map (Rule.renumbered renumber)).Pairwise
        fun first second => built.ranking.compare first second = .lt := by
    rw [List.pairwise_map]
    refine builtMade.pairwise_candidates.imp_of_mem ?_
    intro first second firstMember secondMember before
    rw [built.ranking.compare_renumbered keeps
      (builtMade.mem_candidates.mp firstMember).1 (builtMade.mem_candidates.mp secondMember).1]
    exact before
  exact Ranking.eq_of_perm same movedOrder builtOrder

theorem rulings_renumbered
    (builtMade : built.Made)
    (movedMade : moved.Made)
    (keeps : KeepsOrder renumber built.rules)
    (sameRanking : moved.ranking = built.ranking)
    (movedRules : moved.rules = built.rules.map (Rule.renumbered renumber))
    (request : Request)
    (type : PolicyType) :
    moved.rulings request type =
      (built.rulings request type).map (Ruling.renumbered renumber) := by
  rw [rulings, builtMade.candidates_renumbered movedMade keeps sameRanking movedRules,
    sameRanking, List.filterMap_map, rulings, List.map_filterMap]
  apply List.filterMap_congr
  intro rule _
  exact Ruling.ofRule?_renumbered _ _ renumber rule

end Rulebook.Made

/-- The line on which the rule on a given line is written. -/
def writtenLine (next : Nat) (rules : List Rule) (line : Nat) : Nat :=
  next + rules.countP fun rule => rule.line < line

/-- Rules on ever later lines keep their order when they are written. -/
theorem keepsOrder_writtenLine (next : Nat) (rules : List Rule) :
    KeepsOrder (writtenLine next rules) rules := by
  intro first firstMember second _ before
  obtain ⟨earlier, later, shape⟩ := List.mem_iff_append.mp firstMember
  have mono (part : List Rule) :
      (part.countP fun rule => rule.line < first.line) ≤
        part.countP fun rule => rule.line < second.line := by
    apply List.countP_mono_left
    intro rule _ below
    simp only [decide_eq_true_eq] at below ⊢
    exact Nat.lt_trans below before
  have below : decide (first.line < second.line) = true := by simpa using before
  have notBelow : decide (first.line < first.line) = false := by simp
  have earlierMono := mono earlier
  have laterMono := mono later
  simp only [writtenLine, shape, List.countP_append, List.countP_cons, below, notBelow,
    ↓reduceIte, Bool.false_eq_true]
  omega

theorem onLinesFrom_eq_map
    {rules : List Rule}
    (next : Nat)
    (ascending : rules.Pairwise fun first second => first.line < second.line) :
    onLinesFrom next rules = rules.map (Rule.renumbered (writtenLine next rules)) := by
  induction rules generalizing next with
  | nil => rfl
  | cons rule others inductionHypothesis =>
      obtain ⟨behind, rest⟩ := List.pairwise_cons.mp ascending
      have first : writtenLine next (rule :: others) rule.line = next := by
        have none : (rule :: others).countP (fun other => other.line < rule.line) = 0 := by
          rw [List.countP_eq_zero]
          intro other member
          rcases List.mem_cons.mp member with same | later
          · simp [same]
          · simpa using Nat.le_of_lt (behind other later)
        rw [writtenLine, none, Nat.add_zero]
      have further :
          ∀ other ∈ others,
            other.renumbered (writtenLine (next + 1) others) =
              other.renumbered (writtenLine next (rule :: others)) := by
        intro other member
        have above : decide (rule.line < other.line) = true := by
          simpa using behind other member
        simp only [Rule.renumbered, writtenLine, List.countP_cons, above, ↓reduceIte]
        congr 1
        omega
      rw [onLinesFrom, inductionHypothesis (next + 1) rest, List.map_cons, Rule.renumbered,
        first, List.map_congr_left further]

end LendingRules
