import LendingRules.Proofs.Rulings.ProperRules

namespace LendingRules

open Std

/-!
# Well-formed rulebooks

Whether a rulebook is read from text or finished from a draft, it comes out in
one form: rules on ever later lines with one fallback among them, where the
rulebook says it is, and for each policy type an index of the rules that assign
it, strictly best first. No position that is looked up lies outside the rules.
-/

namespace Rule

/-- A rule without repeated facets constrains as many facets as it has criteria. -/
theorem facets_toList_perm
    {rule : Rule}
    (distinct : (rule.criteria.map Criterion.facet).Nodup) :
    rule.facets.toList.Perm (rule.criteria.map Criterion.facet) := by
  have toListDistinct : rule.facets.toList.Nodup := Facet.nodup_all.filter _
  refine (List.perm_ext_iff_of_nodup toListDistinct distinct).mpr fun facet => ?_
  rw [FacetSet.mem_toList, mem_facets, List.mem_map]

/-- A rule without repeated facets has at most one criterion for each facet. -/
theorem length_criteria_le
    {rule : Rule}
    (distinct : (rule.criteria.map Criterion.facet).Nodup) :
    rule.criteria.length ≤ Facet.all.length := by
  have listed : rule.criteria.map Criterion.facet ⊆ Facet.all :=
    fun facet _ => facet.mem_all
  have bound := (List.subperm_of_subset distinct listed).length_le
  rwa [List.length_map] at bound

end Rule

/--
An index lists, for a policy type, the position of every rule that assigns it
and no other, each once, strictly best first and with a fallback at the end.
-/
structure RankedIndex.Ranks
    (index : RankedIndex)
    (ranking : Ranking)
    (rules : List Rule)
    (type : PolicyType) : Prop where
  mem_positions : ∀ position, position ∈ index.positions.get type ↔
    ∃ rule, rules[position]? = some rule ∧ rule.policies.assigns type = true
  inRange : ∀ position ∈ index.positions.get type, position < rules.length
  nodup : (index.positions.get type).Nodup
  bestFirst : (index.positions.get type).Pairwise fun first second =>
    ∃ firstRule secondRule, rules[first]? = some firstRule ∧
      rules[second]? = some secondRule ∧ ranking.compare firstRule secondRule = .lt
  fallbackLast : ∀ position ∈ index.positions.get type, ∀ rule,
    rules[position]? = some rule → rule.isFallback = true →
      (index.positions.get type).getLast? = some position

namespace RankedIndex

variable {ranking : Ranking} {rules : List Rule} {type : PolicyType}

/-- No two positions tie, since the rules stand on different lines. -/
theorem pairwise_positions_build
    (ranking : Ranking)
    (type : PolicyType)
    (ascending : rules.Pairwise fun first second => first.line < second.line) :
    ((build ranking rules).positions.get type).Pairwise fun first second =>
      ∃ firstRule secondRule, rules[first]? = some firstRule ∧
        rules[second]? = some secondRule ∧
          ranking.compare firstRule secondRule = .lt := by
  have ordered := pairwise_rankedRules_of_apart ranking (ascending.imp Nat.ne_of_lt)
  have listed :
      (((rankedRules ranking rules).filter fun rule =>
          rule.policies.assigns type).map some).Pairwise fun first second =>
        ∃ firstRule secondRule, first = some firstRule ∧ second = some secondRule ∧
          ranking.compare firstRule secondRule = .lt :=
    List.pairwise_map.mpr ((ordered.filter _).imp fun before => ⟨_, _, rfl, rfl, before⟩)
  rwa [← map_positions_build, List.pairwise_map] at listed

/-- The index of rules on ever later lines ranks them for every type. -/
theorem ranks_build
    (ascending : rules.Pairwise fun first second => first.line < second.line)
    (oneFallback : ∀ first ∈ rules, ∀ second ∈ rules,
      first.isFallback = true → second.isFallback = true → first = second) :
    (build ranking rules).Ranks ranking rules type := by
  have ordered := pairwise_positions_build ranking type ascending
  refine
    { mem_positions := fun position => mem_positions_build
      inRange := ?_
      nodup := ?_
      bestFirst := ordered
      fallbackLast := ?_ }
  · intro position member
    obtain ⟨rule, stands, -⟩ := mem_positions_build.mp member
    exact (List.getElem?_eq_some_iff.mp stands).1
  · refine ordered.imp ?_
    rintro first second ⟨firstRule, secondRule, firstStands, secondStands, before⟩ rfl
    cases firstStands.symm.trans secondStands
    have tied : ranking.compare firstRule firstRule = .eq := ReflCmp.compare_self
    rw [tied] at before
    cases before
  · intro position member rule stands fallback
    obtain ⟨before, after, shape⟩ := List.mem_iff_append.mp member
    cases after with
    | nil => simp [shape]
    | cons next rest =>
        -- Whatever stood behind the fallback would have to lose against it.
        rw [shape] at ordered
        obtain ⟨fallbackRule, nextRule, fallbackStands, nextStands, precedes⟩ :=
          List.rel_of_pairwise_cons (List.pairwise_append.mp ordered).2.1
            List.mem_cons_self
        cases stands.symm.trans fallbackStands
        cases marked : nextRule.isFallback with
        | false =>
            have follows : ranking.compare nextRule rule = .lt :=
              Ranking.compare_fallback marked fallback
            exact absurd follows (OrientedCmp.not_lt_of_lt precedes)
        | true =>
            have same : rule = nextRule :=
              oneFallback rule (List.mem_of_getElem? stands) nextRule
                (List.mem_of_getElem? nextStands) fallback marked
            have tied : ranking.compare nextRule nextRule = .eq := ReflCmp.compare_self
            rw [same, tied] at precedes
            cases precedes

theorem foldr_union_contains (rules : List Rule) (facet : Facet) :
    facet ∈ rules.foldr (fun rule facets => rule.facets.union facets) FacetSet.empty ↔
      ∃ rule ∈ rules, facet ∈ rule.facets := by
  induction rules with
  | nil => simp [FacetSet.mem_iff]
  | cons rule others inductionHypothesis =>
      rw [FacetSet.mem_iff] at inductionHypothesis
      simp [FacetSet.mem_iff, inductionHypothesis]

end RankedIndex

namespace Rulebook

/-- The form of a rulebook that everything which reads from it relies on. -/
structure WellFormed (rulebook : Rulebook) : Prop where
  rules_ne_nil : rulebook.rules ≠ []
  ascending : rulebook.rules.Pairwise fun first second => first.line < second.line
  begins : ∀ rule ∈ rulebook.rules, 2 ≤ rule.line
  oneFallback : rulebook.rules.countP Rule.isFallback = 1
  fallbackInRange : rulebook.fallbackPosition < rulebook.rules.length
  fallback : ∃ fallback, rulebook.fallback? = some fallback ∧ fallback.isFallback = true
  criteria : ∀ rule ∈ rulebook.rules, rule.isFallback = false →
    1 ≤ rule.criteria.length ∧ rule.criteria.length ≤ 7
  distinct : ∀ rule ∈ rulebook.rules, (rule.criteria.map Criterion.facet).Nodup
  facets : ∀ rule ∈ rulebook.rules, ∀ facet,
    facet ∈ rule.facets ↔ ∃ criterion ∈ rule.criteria, criterion.facet = facet
  specificity : ∀ rule ∈ rulebook.rules, rule.specificity = rule.facets.size
  assigns : ∀ rule ∈ rulebook.rules, ∃ type, rule.policies.assigns type = true
  lastKey : ∃ preference, rulebook.ranking.keys.getLast? = some (.line preference)
  precedences : ∀ order, RankingKey.precedence order ∈ rulebook.ranking.keys →
    order.facets.Perm Facet.all
  index : ∀ type, rulebook.index.Ranks rulebook.ranking rulebook.rules type
  facetsUsed : ∀ facet,
    facet ∈ rulebook.facetsUsed ↔ ∃ rule ∈ rulebook.rules, facet ∈ rule.facets

/-- The position of the fallback is that of the one fallback among the rules. -/
theorem fallback?_ofRules
    {ranking : Ranking}
    {rules : List Rule}
    {digest : Digest}
    (oneFallback : rules.countP Rule.isFallback = 1) :
    ∃ fallback, (ofRules ranking rules digest).fallback? = some fallback ∧
      fallback.isFallback = true := by
  have present : ∃ rule ∈ rules, rule.isFallback = true := by
    rw [← List.countP_pos_iff, oneFallback]
    exact Nat.one_pos
  have found : (rules.findIdx? Rule.isFallback).isSome = true := by
    rw [List.findIdx?_isSome, List.any_eq_true]
    exact present
  obtain ⟨position, first⟩ := Option.isSome_iff_exists.mp found
  obtain ⟨inRange, marked, -⟩ := List.findIdx?_eq_some_iff_getElem.mp first
  refine ⟨rules[position], ?_, marked⟩
  simp only [fallback?, ofRules, first, Option.getD_some]
  exact List.getElem?_eq_getElem inRange

/-- Every rulebook that can be made is well formed. -/
theorem Made.wellFormed
    {rulebook : Rulebook}
    (made : rulebook.Made) :
    rulebook.WellFormed := by
  have sound := made.soundRules.1
  have proper := made.proper
  have fallbackFound :
      ∃ fallback, rulebook.fallback? = some fallback ∧ fallback.isFallback = true := by
    rw [made.eq_ofRules]
    exact fallback?_ofRules sound.oneFallback
  refine
    { rules_ne_nil := ?_
      ascending := sound.ascending
      begins := fun rule member => (proper rule member).begins
      oneFallback := sound.oneFallback
      fallbackInRange := ?_
      fallback := fallbackFound
      criteria := ?_
      distinct := fun rule member => (proper rule member).distinct
      facets := fun rule _ facet => Rule.mem_facets
      specificity := ?_
      assigns := fun rule member => (proper rule member).assigns
      lastKey := ⟨_, rulebook.ranking.getLast?_keys⟩
      precedences := fun order _ => order.facets_perm
      index := ?_
      facetsUsed := ?_ }
  · intro none
    have oneFallback := sound.oneFallback
    simp [none] at oneFallback
  · obtain ⟨fallback, found, -⟩ := fallbackFound
    exact (List.getElem?_eq_some_iff.mp found).1
  · intro rule member ordinary
    refine ⟨?_, Rule.length_criteria_le (proper rule member).distinct⟩
    exact List.length_pos_of_ne_nil (sound.criteria_ne_nil rule member ordinary)
  · intro rule member
    have same := Rule.facets_toList_perm (proper rule member).distinct
    rw [Rule.specificity, FacetSet.size, same.length_eq, List.length_map]
  · intro type
    rw [made.soundRules.2]
    exact RankedIndex.ranks_build sound.ascending fun first firstMember second secondMember =>
      sound.fallback_unique firstMember secondMember
  · intro facet
    rw [facetsUsed, made.soundRules.2]
    exact RankedIndex.foldr_union_contains rulebook.rules facet

/-- The rulebook read from the nested text is well formed. -/
theorem wellFormed_nestedText :
    ∃ rulebook, Rulebook.ofText nestedText = .ok rulebook ∧ rulebook.Made ∧
      rulebook.WellFormed := by
  have accepted : (Rulebook.ofText nestedText).isOk = true := by decide +kernel
  cases compiled : Rulebook.ofText nestedText with
  | error error =>
      rw [compiled] at accepted
      cases accepted
  | ok rulebook =>
      have made : rulebook.Made := .ofText compiled
      exact ⟨rulebook, rfl, made, made.wellFormed⟩

end Rulebook

end LendingRules
