import LendingRules.Proofs.Rulings.Matching
import Mathlib.Data.List.Nodup

namespace LendingRules

open Std

/-!
# Ranking does not depend on the order of the rules

A ranking is a total order on rules up to their lines, whatever its keys are. So
rules on different lines stand in one order only, and the index lists them in
that order for each policy type, no matter in which order they were given.
-/

namespace Ranking

/--
A ranking orders rules: turning a comparison around reverses it, what may stand
before may be chained, the fallback comes after every other rule, and only rules
on one line tie, of which either both or neither is a fallback.
-/
structure OrdersRules (ranking : Ranking) : Prop where
  swap : ∀ first second,
    ranking.compare second first = (ranking.compare first second).swap
  trans : ∀ first second third,
    (ranking.compare first second).isLE = true →
      (ranking.compare second third).isLE = true →
        (ranking.compare first third).isLE = true
  fallbackLast : ∀ ordinary fallback,
    ordinary.isFallback = false → fallback.isFallback = true →
      ranking.compare ordinary fallback = .lt
  ties : ∀ first second, ranking.compare first second = .eq →
    first.isFallback = second.isFallback ∧ first.line = second.line

/-- Of two rules that tie, either both are a fallback or neither is. -/
theorem isFallback_eq_of_compare
    {ranking : Ranking}
    {first second : Rule}
    (tied : ranking.compare first second = .eq) :
    first.isFallback = second.isFallback := by
  rw [compare, compareLex_eq_eq] at tied
  exact LawfulEqCmp.eq_of_compare tied.1

/-- Every ranking orders rules. -/
theorem ordersRules (ranking : Ranking) : ranking.OrdersRules where
  swap _ _ := OrientedCmp.eq_swap
  trans _ _ _ := le_trans
  fallbackLast _ _ := compare_fallback
  ties _ _ tied := ⟨isFallback_eq_of_compare tied, line_eq_of_compare tied⟩

end Ranking

namespace RankedIndex

/-- Whether the positions that the index lists for a type are those of some rules, in order. -/
def Lists (index : RankedIndex) (rules : List Rule) (type : PolicyType) (listed : List Rule) :
    Prop :=
  (index.positions.get type).map (fun position => rules[position]?) = listed.map some

/-- Rules on different lines are ranked in one way, whatever their order was. -/
theorem rankedRules_eq_of_perm
    {rules others : List Rule}
    (ranking : Ranking)
    (apart : (rules.map Rule.line).Nodup)
    (same : rules.Perm others) :
    rankedRules ranking others = rankedRules ranking rules := by
  have rulesApart : rules.Pairwise fun first second => first.line ≠ second.line :=
    List.pairwise_map.mp apart
  have othersApart : others.Pairwise fun first second => first.line ≠ second.line :=
    (same.pairwise_iff fun different => different.symm).mp rulesApart
  have ranked : (rankedRules ranking others).Perm (rankedRules ranking rules) :=
    (rankedRules_perm ranking others).trans (same.symm.trans (rankedRules_perm ranking rules).symm)
  exact Ranking.eq_of_perm ranked (pairwise_rankedRules_of_apart ranking othersApart)
    (pairwise_rankedRules_of_apart ranking rulesApart)

end RankedIndex

/--
Every ranking orders rules, and so the order in which rules on different lines are
given does not matter: for each policy type the index lists the same rules in the
same order, namely those that assign the type, strictly best first.
-/
theorem Ranking.orders_rules_and_determines_index (ranking : Ranking) :
    ranking.OrdersRules ∧
      ∀ rules : List Rule, (rules.map Rule.line).Nodup → ∀ type : PolicyType,
        ∃ listed : List Rule,
          listed.Perm (rules.filter fun rule => rule.policies.assigns type) ∧
            (listed.Pairwise fun first second => ranking.compare first second = .lt) ∧
              ∀ others : List Rule, rules.Perm others →
                (RankedIndex.build ranking others).Lists others type listed := by
  refine ⟨ranking.ordersRules, fun rules apart type => ?_⟩
  refine ⟨(RankedIndex.rankedRules ranking rules).filter fun rule => rule.policies.assigns type,
    ?_, ?_, ?_⟩
  · exact (RankedIndex.rankedRules_perm ranking rules).filter _
  · exact (RankedIndex.pairwise_rankedRules_of_apart ranking (List.pairwise_map.mp apart)).filter _
  · intro others same
    rw [RankedIndex.Lists, RankedIndex.map_positions_build,
      RankedIndex.rankedRules_eq_of_perm ranking apart same]

/-- A ranking with a repeated key and a line preference before the last key. -/
def repeatingRanking : Ranking :=
  .ofKeys [.criteriaCount, .criteriaCount, .line .firstLine, .precedence .customary]

/-- A rule on children, one on books, the fallback, and one on the books of adults. -/
def shuffledRules : List Rule :=
  [⟨.allOf [⟨.patronGroup, .oneOf ["child"]⟩], .ofPairs [(.request, "hold")], 3⟩,
    ⟨.allOf [⟨.materialType, .oneOf ["book"]⟩], .ofPairs [(.loan, "reading")], 5⟩,
    ⟨.fallback, .ofPairs [(.loan, "standard"), (.request, "page")], 2⟩,
    ⟨.allOf [⟨.materialType, .oneOf ["book"]⟩, ⟨.patronGroup, .noneOf ["child"]⟩],
      .ofPairs [(.loan, "research")], 7⟩]

/-- Given forward or backward, three of the rules are listed for loans, in one order. -/
theorem lists_shuffledRules :
    (shuffledRules.map Rule.line).Nodup ∧ shuffledRules.Perm shuffledRules.reverse ∧
      ∃ listed, listed.map Rule.line = [7, 5, 2] ∧
        (RankedIndex.build repeatingRanking shuffledRules).Lists shuffledRules .loan listed ∧
          (RankedIndex.build repeatingRanking shuffledRules.reverse).Lists
            shuffledRules.reverse .loan listed := by
  have apart : (shuffledRules.map Rule.line).Nodup := by decide
  have backward : shuffledRules.Perm shuffledRules.reverse := (List.reverse_perm _).symm
  obtain ⟨listed, assigning, ordered, lists⟩ :=
    repeatingRanking.orders_rules_and_determines_index.2 shuffledRules apart .loan
  have inOrder : listed = [shuffledRules[3], shuffledRules[1], shuffledRules[2]] :=
    Ranking.eq_of_perm (assigning.trans (by decide)) ordered (by decide)
  refine ⟨apart, backward, listed, ?_, lists _ (.refl _), lists _ backward⟩
  rw [inOrder]
  rfl

end LendingRules
