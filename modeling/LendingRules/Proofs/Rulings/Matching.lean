import LendingRules.Proofs.Rulings.Made
import LendingRules.Proofs.Rulings.RankingOrder

namespace LendingRules

open Std

/-!
# Matching through the index

The plain way to match goes through all rules, keeps those that decide the
policy type for the request, and sorts them by the ranking. The rulebook instead
walks a list of positions that was sorted beforehand. Both give the same rules
in the same order, whatever the rules, the ranking and the request.
-/

namespace Rule

/-- Whether a rule has a criterion on a facet. -/
def Constrains (rule : Rule) (facet : Facet) : Prop :=
  ∃ criterion ∈ rule.criteria, criterion.facet = facet

/--
Whether a rule decides a policy type for a request: it assigns the type, and
each of its criteria accepts the id that the request supplies for its facet.
-/
def Decides (rule : Rule) (request : Request) (type : PolicyType) : Prop :=
  rule.policies.assigns type = true ∧
    ∀ criterion ∈ rule.criteria,
      criterion.accepts (request.get? criterion.facet) = true

instance (rule : Rule) (request : Request) (type : PolicyType) :
    Decidable (rule.Decides request type) :=
  inferInstanceAs (Decidable (_ ∧ _))

theorem decide_decides
    (rule : Rule)
    (request : Request)
    (type : PolicyType) :
    decide (rule.Decides request type) =
      (rule.policies.assigns type && rule.holds request) := by
  rw [Bool.eq_iff_iff, decide_eq_true_eq, Bool.and_eq_true, holds, List.all_eq_true]
  rfl

end Rule

namespace RankedIndex

variable {ranking : Ranking} {rules : List Rule}

/-- The rules in ranked order, without their positions. -/
def rankedRules (ranking : Ranking) (rules : List Rule) : List Rule :=
  (ranked ranking rules).map Prod.fst

theorem rankedRules_perm (ranking : Ranking) (rules : List Rule) :
    (rankedRules ranking rules).Perm rules := by
  have sorted := (ranked_perm ranking rules).map Prod.fst
  rwa [List.zipIdx_map_fst] at sorted

theorem pairwise_rankedRules (ranking : Ranking) (rules : List Rule) :
    (rankedRules ranking rules).Pairwise fun first second =>
      ranking.le first second = true := by
  rw [rankedRules, List.pairwise_map]
  apply List.pairwise_mergeSort
  · intro first second third
    exact Ranking.le_trans
  · intro first second
    exact ranking.le_total first.1 second.1

/-- Rules on different lines do not tie, so they are ranked in strict order. -/
theorem pairwise_rankedRules_of_apart
    (ranking : Ranking)
    (apart : rules.Pairwise fun first second => first.line ≠ second.line) :
    (rankedRules ranking rules).Pairwise fun first second =>
      ranking.compare first second = .lt := by
  have rankedApart :
      (rankedRules ranking rules).Pairwise fun first second => first.line ≠ second.line :=
    ((rankedRules_perm ranking rules).pairwise_iff fun different => different.symm).mpr apart
  exact ((pairwise_rankedRules ranking rules).and rankedApart).imp fun both =>
    Ranking.compare_of_le both.1 both.2

/-- At the indexed positions stand the ranked rules that assign the type. -/
theorem map_positions_build (type : PolicyType) :
    ((build ranking rules).positions.get type).map (fun position => rules[position]?) =
      ((rankedRules ranking rules).filter fun rule => rule.policies.assigns type).map some := by
  have found :
      ∀ entry ∈ (ranked ranking rules).filter fun entry =>
          entry.1.policies.assigns type,
        rules[entry.2]? = some entry.1 := by
    intro entry member
    have listed : entry ∈ rules.zipIdx :=
      (ranked_perm ranking rules).mem_iff.mp (List.mem_of_mem_filter member)
    exact List.mk_mem_zipIdx_iff_getElem?.mp listed
  simp only [build, PolicyTable.get_ofFn, List.map_map, Function.comp_def]
  rw [List.map_congr_left found, rankedRules, List.filter_map, List.map_map]
  rfl

/-- The indexed positions lead back to the ranked rules that assign the type. -/
theorem filterMap_positions_build (type : PolicyType) :
    ((build ranking rules).positions.get type).filterMap
        (fun position => rules[position]?) =
      (rankedRules ranking rules).filter fun rule => rule.policies.assigns type := by
  have listed :
      ((build ranking rules).positions.get type).map (fun position => rules[position]?) =
        ((rankedRules ranking rules).filter fun rule => rule.policies.assigns type).map some :=
    map_positions_build type
  simpa only [List.filterMap_map, Function.id_comp, List.filterMap_some] using
    congrArg (List.filterMap id) listed

end RankedIndex

namespace Rulebook

variable {rulebook : Rulebook} {request : Request} {type : PolicyType}

/-- Walking the index finds the ranked rules that decide the type. -/
theorem candidates_eq_filter
    (indexed : rulebook.index = .build rulebook.ranking rulebook.rules) :
    rulebook.candidates request type =
      (RankedIndex.rankedRules rulebook.ranking rulebook.rules).filter fun rule =>
        rule.Decides request type := by
  rw [candidates, indexed, RankedIndex.filterMap_positions_build, List.filter_filter]
  apply List.filter_congr
  intro rule _
  rw [matchesRule_eq_holds, Rule.decide_decides, Bool.and_comm]

/-- Neither is a rule that decides the type lost, nor is one found twice. -/
theorem Made.candidates_perm
    (made : rulebook.Made) :
    (rulebook.candidates request type).Perm
      (rulebook.rules.filter fun rule => rule.Decides request type) := by
  rw [candidates_eq_filter made.soundRules.2]
  exact (RankedIndex.rankedRules_perm _ _).filter _

theorem Made.mem_candidates
    (made : rulebook.Made)
    {rule : Rule} :
    rule ∈ rulebook.candidates request type ↔
      rule ∈ rulebook.rules ∧ rule.Decides request type := by
  rw [made.candidates_perm.mem_iff]
  simp

/-- No two candidates tie, since they stand on different lines. -/
theorem Made.pairwise_candidates
    (made : rulebook.Made) :
    (rulebook.candidates request type).Pairwise fun first second =>
      rulebook.ranking.compare first second = .lt := by
  rw [candidates_eq_filter made.soundRules.2]
  exact (RankedIndex.pairwise_rankedRules_of_apart _
    (made.soundRules.1.ascending.imp Nat.ne_of_lt)).filter _

/-- A fallback among the candidates is the last of them. -/
theorem Made.getLast?_candidates
    (made : rulebook.Made)
    {fallback : Rule}
    (member : fallback ∈ rulebook.candidates request type)
    (marked : fallback.isFallback = true) :
    (rulebook.candidates request type).getLast? = some fallback := by
  have ordered :
      (rulebook.candidates request type).Pairwise fun first second =>
        rulebook.ranking.compare first second = .lt :=
    made.pairwise_candidates
  obtain ⟨before, after, shape⟩ := List.mem_iff_append.mp member
  cases after with
  | nil => simp [shape]
  | cons next rest =>
      have nextMember : next ∈ rulebook.candidates request type := by simp [shape]
      rw [shape] at ordered
      have precedes : rulebook.ranking.compare fallback next = .lt :=
        List.rel_of_pairwise_cons (List.pairwise_append.mp ordered).2.1 (by simp)
      cases nextMarked : next.isFallback with
      | false =>
          have follows : rulebook.ranking.compare next fallback = .lt :=
            Ranking.compare_fallback nextMarked marked
          exact absurd follows (OrientedCmp.not_lt_of_lt precedes)
      | true =>
          have same : fallback = next :=
            made.soundRules.1.fallback_unique (made.mem_candidates.mp member).1
              (made.mem_candidates.mp nextMember).1 marked nextMarked
          have tied : rulebook.ranking.compare next next = .eq := ReflCmp.compare_self
          rw [same, tied] at precedes
          cases precedes

end Rulebook

end LendingRules
