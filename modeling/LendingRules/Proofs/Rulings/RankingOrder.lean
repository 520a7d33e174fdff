import LendingRules.Ranking.Basic

namespace LendingRules

open Std

/-!
# The order a ranking puts on rules

Each key of a ranking is a total preorder on rules, and so is trying several
keys one after the other. What the keys leave undecided is settled by the line
preference at the end, so two rules tie only when they stand on the same line.
-/

/-- Trying comparisons in order reverses when each of them does. -/
theorem orientedCmp_lexicographic
    {Value : Type}
    {comparisons : List (Value → Value → Ordering)}
    (each : ∀ comparison ∈ comparisons, OrientedCmp comparison) :
    OrientedCmp (lexicographic comparisons) := by
  induction comparisons with
  | nil => exact ⟨rfl⟩
  | cons comparison rest inductionHypothesis =>
      have first : OrientedCmp comparison := each comparison (by simp)
      have others : OrientedCmp (lexicographic rest) :=
        inductionHypothesis fun other member => each other (by simp [member])
      exact inferInstanceAs (OrientedCmp (compareLex comparison (lexicographic rest)))

/-- Trying comparisons in order is transitive when each of them is. -/
theorem transCmp_lexicographic
    {Value : Type}
    {comparisons : List (Value → Value → Ordering)}
    (each : ∀ comparison ∈ comparisons, TransCmp comparison) :
    TransCmp (lexicographic comparisons) := by
  induction comparisons with
  | nil =>
      have oriented : OrientedCmp (lexicographic ([] : List (Value → Value → Ordering))) :=
        orientedCmp_lexicographic (by simp)
      exact ⟨fun _ _ => rfl⟩
  | cons comparison rest inductionHypothesis =>
      have first : TransCmp comparison := each comparison (by simp)
      have others : TransCmp (lexicographic rest) :=
        inductionHypothesis fun other member => each other (by simp [member])
      exact inferInstanceAs (TransCmp (compareLex comparison (lexicographic rest)))

/-- Values tie exactly when no comparison tells them apart. -/
theorem lexicographic_eq_eq_iff
    {Value : Type}
    {comparisons : List (Value → Value → Ordering)}
    {first second : Value} :
    lexicographic comparisons first second = .eq ↔
      ∀ comparison ∈ comparisons, comparison first second = .eq := by
  induction comparisons with
  | nil => simp [lexicographic]
  | cons comparison rest inductionHypothesis =>
      have unfolded :
          lexicographic (comparison :: rest) first second =
            compareLex comparison (lexicographic rest) first second := rfl
      rw [unfolded, compareLex_eq_eq, inductionHypothesis]
      simp

namespace Precedence

theorem transCmp_compareAt (facet : Facet) : TransCmp (compareAt facet) :=
  inferInstanceAs
    (TransCmp fun first second : FacetSet =>
      compareOn (fun set => set.contains facet) second first)

theorem transCmp_compare (precedence : Precedence) : TransCmp precedence.compare := by
  refine transCmp_lexicographic fun comparison member => ?_
  obtain ⟨facet, -, rfl⟩ := List.mem_map.mp member
  exact transCmp_compareAt facet

end Precedence

namespace LinePreference

theorem transCmp_compare (preference : LinePreference) : TransCmp preference.compare := by
  cases preference with
  | firstLine => exact inferInstanceAs (TransCmp (compareOn Rule.line))
  | lastLine =>
      exact inferInstanceAs
        (TransCmp fun first second => compareOn Rule.line second first)

/-- A line preference leaves only rules on the same line undecided. -/
theorem compare_eq_eq_iff
    {preference : LinePreference}
    {first second : Rule} :
    preference.compare first second = .eq ↔ first.line = second.line := by
  cases preference with
  | firstLine => exact Nat.compare_eq_eq
  | lastLine => exact Nat.compare_eq_eq.trans eq_comm

end LinePreference

namespace RankingKey

theorem transCmp_compare (key : RankingKey) : TransCmp key.compare := by
  cases key with
  | criteriaCount =>
      exact inferInstanceAs
        (TransCmp fun first second => compareOn Rule.specificity second first)
  | precedence order =>
      have transitive := order.transCmp_compare
      exact
        { eq_swap := transitive.eq_swap
          isLE_trans := transitive.isLE_trans }
  | line preference => exact preference.transCmp_compare

end RankingKey

namespace Ranking

variable {ranking : Ranking} {first second third : Rule}

instance transCmp_compare (ranking : Ranking) : TransCmp ranking.compare := by
  have keys : TransCmp (lexicographic (ranking.keys.map RankingKey.compare)) := by
    refine transCmp_lexicographic fun comparison member => ?_
    obtain ⟨key, -, rfl⟩ := List.mem_map.mp member
    exact key.transCmp_compare
  exact inferInstanceAs (TransCmp (compareLex (compareOn Rule.isFallback) _))

/-- Rules that tie stand on the same line. -/
theorem line_eq_of_compare
    (tied : ranking.compare first second = .eq) :
    first.line = second.line := by
  rw [compare, compareLex_eq_eq, lexicographic_eq_eq_iff] at tied
  have final := tied.2 (RankingKey.compare (.line ranking.final))
    (List.mem_map_of_mem (by simp [keys]))
  exact LinePreference.compare_eq_eq_iff.mp final

/-- Every other rule comes before the fallback. -/
theorem compare_fallback
    (ordinary : first.isFallback = false)
    (fallback : second.isFallback = true) :
    ranking.compare first second = .lt := by
  have flags : compareOn Rule.isFallback first second = .lt := by
    simp only [compareOn, ordinary, fallback]
    rfl
  simp [compare, compareLex, flags]

theorem le_trans
    (firstSecond : ranking.le first second = true)
    (secondThird : ranking.le second third = true) :
    ranking.le first third = true :=
  TransCmp.isLE_trans firstSecond secondThird

theorem le_total (ranking : Ranking) (first second : Rule) :
    (ranking.le first second || ranking.le second first) = true := by
  cases compared : ranking.le first second with
  | true => rfl
  | false =>
      have after : ranking.compare second first = .lt :=
        OrientedCmp.lt_of_not_isLE (by simpa [le] using compared)
      simp [le, after]

/-- A rule that may stand before one on another line comes before it. -/
theorem compare_of_le
    (ordered : ranking.le first second = true)
    (apart : first.line ≠ second.line) :
    ranking.compare first second = .lt := by
  cases compared : ranking.compare first second with
  | lt => rfl
  | eq => exact absurd (line_eq_of_compare compared) apart
  | gt => simp [le, compared] at ordered

/-- The same rules stand in strict order in one way only. -/
theorem eq_of_perm
    {rules others : List Rule}
    (same : rules.Perm others)
    (ordered : rules.Pairwise fun first second => ranking.compare first second = .lt)
    (othersOrdered : others.Pairwise fun first second => ranking.compare first second = .lt) :
    rules = others := by
  refine List.Perm.eq_of_pairwise ?_ ordered othersOrdered same
  intro first second _ _ before behind
  exact absurd behind (OrientedCmp.not_lt_of_lt before)

end Ranking

end LendingRules
