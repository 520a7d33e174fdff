import LendingRules.Ranking.Basic

namespace LendingRules

/-!
# The ranked index of a rulebook

How rules rank does not depend on the request, so their order is fixed once.
For each policy type the index lists the positions of the rules that assign it,
best first.
-/

/-- Positions of rules in ranked order, and the facets any rule constrains. -/
structure RankedIndex where
  positions : PolicyTable (List Nat)
  facetsUsed : FacetSet
  deriving Repr, DecidableEq

namespace RankedIndex

/-- The rules with their positions, best first. -/
def ranked (ranking : Ranking) (rules : List Rule) : List (Rule × Nat) :=
  rules.zipIdx.mergeSort fun first second => ranking.le first.1 second.1

/-- The index of some rules under a ranking. -/
def build (ranking : Ranking) (rules : List Rule) : RankedIndex where
  positions := .ofFn fun type =>
    ((ranked ranking rules).filter fun entry =>
      entry.1.policies.assigns type).map Prod.snd
  facetsUsed := rules.foldr (fun rule facets => rule.facets.union facets) .empty

/-- Ranking the rules neither loses nor repeats one. -/
theorem ranked_perm (ranking : Ranking) (rules : List Rule) :
    (ranked ranking rules).Perm rules.zipIdx :=
  List.mergeSort_perm _ _

/-- An indexed position is that of a rule assigning the type. -/
theorem mem_positions_build
    {ranking : Ranking}
    {rules : List Rule}
    {type : PolicyType}
    {position : Nat} :
    position ∈ (build ranking rules).positions.get type ↔
      ∃ rule, rules[position]? = some rule ∧ rule.policies.assigns type = true := by
  simp only [build, PolicyTable.get_ofFn, List.mem_map, List.mem_filter,
    (ranked_perm ranking rules).mem_iff]
  constructor
  · rintro ⟨entry, ⟨member, assigned⟩, rfl⟩
    exact ⟨entry.1, List.mk_mem_zipIdx_iff_getElem?.mp member, assigned⟩
  · rintro ⟨rule, found, assigned⟩
    exact ⟨(rule, position),
      ⟨List.mk_mem_zipIdx_iff_getElem?.mpr found, assigned⟩, rfl⟩

end RankedIndex

end LendingRules
