import LendingRules.Proofs.Rulings.ProperRules
import LendingRules.Proofs.Rulings.Refinement
import Mathlib.Data.List.Nodup

namespace LendingRules

open Std

/-!
# The more specific rule comes first

A rule that constrains every facet of another rule and some more has more criteria,
and no precedence ever puts it behind: going through the facets in order, the first
one that tells the two apart is one that only the more specific rule constrains. So
a ranking whose first key is not a line preference puts the more specific rule
first, whatever keys it has and however they order the facets.
-/

/-- Comparisons of which some favour the first value and none the second put the first before. -/
theorem lexicographic_eq_lt
    {Value : Type}
    {comparisons : List (Value → Value → Ordering)}
    {first second : Value}
    (noneAgainst : ∀ comparison ∈ comparisons, comparison first second ≠ .gt)
    (someFor : ∃ comparison ∈ comparisons, comparison first second = .lt) :
    lexicographic comparisons first second = .lt := by
  induction comparisons with
  | nil => simp at someFor
  | cons comparison rest inductionHypothesis =>
      have unfolded :
          lexicographic (comparison :: rest) first second =
            (comparison first second).then (lexicographic rest first second) := rfl
      rw [unfolded]
      cases compared : comparison first second with
      | lt => rfl
      | gt => exact absurd compared (noneAgainst comparison (by simp))
      | eq =>
          refine inductionHypothesis
            (fun other member => noneAgainst other (List.mem_cons_of_mem _ member)) ?_
          obtain ⟨other, member, favours⟩ := someFor
          rcases List.mem_cons.mp member with rfl | later
          · rw [compared] at favours
            cases favours
          · exact ⟨other, later, favours⟩

namespace Precedence

variable {first second : FacetSet} {facet : Facet}

theorem compareAt_ne_gt (included : facet ∈ second → facet ∈ first) :
    compareAt facet first second ≠ .gt := by
  simp only [FacetSet.mem_iff] at included
  unfold compareAt
  cases inSecond : second.contains facet with
  | false => cases first.contains facet <;> simp [Ord.compare]
  | true =>
      rw [included inSecond]
      simp [Ord.compare]

theorem compareAt_eq_lt (inFirst : facet ∈ first) (notInSecond : facet ∉ second) :
    compareAt facet first second = .lt := by
  rw [FacetSet.mem_iff] at inFirst notInSecond
  rw [Bool.not_eq_true] at notInSecond
  rw [compareAt, inFirst, notInSecond]
  rfl

/-- Every precedence puts a set of facets before those that it properly contains. -/
theorem compare_eq_lt
    (precedence : Precedence)
    (included : ∀ facet ∈ second, facet ∈ first)
    (extra : ∃ facet ∈ first, facet ∉ second) :
    precedence.compare first second = .lt := by
  refine lexicographic_eq_lt ?_ ?_
  · intro comparison member
    obtain ⟨facet, -, rfl⟩ := List.mem_map.mp member
    exact compareAt_ne_gt (included facet)
  · obtain ⟨facet, inFirst, notInSecond⟩ := extra
    exact ⟨compareAt facet, List.mem_map_of_mem (precedence.mem_facets facet),
      compareAt_eq_lt inFirst notInSecond⟩

end Precedence

namespace Rule

variable {first second : Rule}

/-- Whether a rule constrains every facet that another one does, and others besides. -/
structure MoreSpecific (first second : Rule) : Prop where
  included : ∀ facet, second.Constrains facet → first.Constrains facet
  extra : ∃ facet, first.Constrains facet ∧ ¬ second.Constrains facet

theorem MoreSpecific.ordinary (more : first.MoreSpecific second) : first.isFallback = false := by
  obtain ⟨facet, ⟨criterion, member, -⟩, -⟩ := more.extra
  cases marked : first.isFallback with
  | false => rfl
  | true => simp [criteria_of_isFallback marked] at member

/-- A more specific rule has more criteria, provided the other one repeats no facet. -/
theorem MoreSpecific.specificity_lt
    (more : first.MoreSpecific second)
    (distinct : (second.criteria.map Criterion.facet).Nodup) :
    second.specificity < first.specificity := by
  have mem_map_facet (rule : Rule) (facet : Facet) :
      facet ∈ rule.criteria.map Criterion.facet ↔ rule.Constrains facet := List.mem_map
  obtain ⟨extra, inFirst, notInSecond⟩ := more.extra
  have extraDistinct : (extra :: second.criteria.map Criterion.facet).Nodup :=
    List.nodup_cons.mpr ⟨mt (mem_map_facet second extra).mp notInSecond, distinct⟩
  have listed :
      extra :: second.criteria.map Criterion.facet ⊆ first.criteria.map Criterion.facet := by
    refine List.cons_subset.mpr ⟨(mem_map_facet first extra).mpr inFirst, ?_⟩
    intro facet member
    exact (mem_map_facet first facet).mpr
      (more.included facet ((mem_map_facet second facet).mp member))
  have bound := (List.subperm_of_subset extraDistinct listed).length_le
  simp only [List.length_cons, List.length_map] at bound
  exact Nat.lt_of_succ_le bound

end Rule

namespace Ranking

variable {ranking : Ranking} {first second : Rule}

/-- Whether the first key of a ranking is a line preference. -/
def GoesByLine (ranking : Ranking) : Prop :=
  ∃ preference, ranking.keys.head? = some (.line preference)

/-- A rule that the first key favours comes first, unless it is the fallback. -/
theorem compare_eq_lt_of_head
    {key : RankingKey}
    {others : List RankingKey}
    (shape : ranking.keys = key :: others)
    (ordinary : first.isFallback = false)
    (favoured : key.compare first second = .lt) :
    ranking.compare first second = .lt := by
  cases marked : second.isFallback with
  | true => exact compare_fallback ordinary marked
  | false =>
      have flags : compareOn Rule.isFallback first second = .eq := by
        simp only [compareOn, ordinary, marked]
        rfl
      have head :
          lexicographic (ranking.keys.map RankingKey.compare) first second =
            (key.compare first second).then
              (lexicographic (others.map RankingKey.compare) first second) := by
        rw [shape]
        rfl
      rw [compare, compareLex, flags, head, favoured]
      rfl

/-- Unless lines count first, the more specific rule comes first. -/
theorem compare_of_moreSpecific
    (more : first.MoreSpecific second)
    (distinct : (second.criteria.map Criterion.facet).Nodup)
    (ranked : ¬ ranking.GoesByLine) :
    ranking.compare first second = .lt := by
  cases shape : ranking.keys with
  | nil => simp [keys] at shape
  | cons key others =>
      refine compare_eq_lt_of_head shape more.ordinary ?_
      cases key with
      | criteriaCount => exact Nat.compare_eq_lt.mpr (more.specificity_lt distinct)
      | precedence order =>
          obtain ⟨extra, inFirst, notInSecond⟩ := more.extra
          exact order.compare_eq_lt
            (fun facet inSecond =>
              Rule.mem_facets.mpr (more.included facet (Rule.mem_facets.mp inSecond)))
            ⟨extra, Rule.mem_facets.mpr inFirst, mt Rule.mem_facets.mp notInSecond⟩
      | line preference => exact absurd ⟨preference, by rw [shape]; rfl⟩ ranked

end Ranking

/-- Of rules on ever later lines no two stand on the same one. -/
theorem SoundRules.eq_of_line
    {rules : List Rule}
    (sound : SoundRules rules)
    {first second : Rule}
    (firstMember : first ∈ rules)
    (secondMember : second ∈ rules)
    (same : first.line = second.line) :
    first = second := by
  have apart : (rules.map Rule.line).Nodup :=
    List.pairwise_map.mpr (sound.ascending.imp Nat.ne_of_lt)
  exact List.inj_on_of_nodup_map apart firstMember secondMember same

namespace Rulebook

variable {rulebook : Rulebook} {request : Request} {type : PolicyType}

/--
Whether a rule appears at a place among the rulings for a request. Rulings tell the
rule they come from by its line.
-/
def AppearsAt
    (rulebook : Rulebook)
    (request : Request)
    (type : PolicyType)
    (rule : Rule)
    (place : Nat) : Prop :=
  ∃ ruling, (rulebook.rulings request type)[place]? = some ruling ∧ ruling.line = rule.line

/-- A rule appears where it stands among the candidates. -/
theorem Made.appearsAt_iff
    (made : rulebook.Made)
    {rule : Rule}
    (member : rule ∈ rulebook.rules)
    {place : Nat} :
    rulebook.AppearsAt request type rule place ↔
      (rulebook.candidates request type)[place]? = some rule := by
  have reports := made.reports_rulings request type
  constructor
  · rintro ⟨ruling, stands, sameLine⟩
    obtain ⟨inRange, rfl⟩ := List.getElem?_eq_some_iff.mp stands
    have candidateInRange : place < (rulebook.candidates request type).length := by
      rwa [reports.length_eq]
    have report := reports.get candidateInRange inRange
    have candidateMember :=
      (made.mem_candidates.mp (List.getElem_mem candidateInRange)).1
    rw [List.getElem?_eq_getElem candidateInRange, Option.some.injEq]
    exact made.soundRules.1.eq_of_line candidateMember member (report.line.symm.trans sameLine)
  · intro stands
    obtain ⟨inRange, rfl⟩ := List.getElem?_eq_some_iff.mp stands
    have rulingInRange : place < (rulebook.rulings request type).length := by
      rwa [← reports.length_eq]
    exact ⟨_, List.getElem?_eq_getElem rulingInRange, (reports.get inRange rulingInRange).line⟩

/-- Every rule that decides a request appears among the rulings. -/
theorem Made.exists_appearsAt
    (made : rulebook.Made)
    {rule : Rule}
    (member : rule ∈ rulebook.rules)
    (decides : rule.Decides request type) :
    ∃ place, rulebook.AppearsAt request type rule place := by
  obtain ⟨place, stands⟩ :=
    List.getElem?_of_mem (made.mem_candidates.mpr ⟨member, decides⟩)
  exact ⟨place, (made.appearsAt_iff member).mpr stands⟩

/-- A rule that comes before another in the ranking appears before it. -/
theorem Made.place_lt_of_compare
    (made : rulebook.Made)
    {first second : Rule}
    (firstMember : first ∈ rulebook.rules)
    (secondMember : second ∈ rulebook.rules)
    (before : rulebook.ranking.compare first second = .lt)
    {firstPlace secondPlace : Nat}
    (firstAppears : rulebook.AppearsAt request type first firstPlace)
    (secondAppears : rulebook.AppearsAt request type second secondPlace) :
    firstPlace < secondPlace := by
  obtain ⟨firstInRange, rfl⟩ :=
    List.getElem?_eq_some_iff.mp ((made.appearsAt_iff firstMember).mp firstAppears)
  obtain ⟨secondInRange, rfl⟩ :=
    List.getElem?_eq_some_iff.mp ((made.appearsAt_iff secondMember).mp secondAppears)
  have ordered :
      (rulebook.candidates request type).Pairwise fun first second =>
        rulebook.ranking.compare first second = .lt :=
    made.pairwise_candidates
  rcases Nat.lt_trichotomy firstPlace secondPlace with less | same | more
  · exact less
  · subst same
    have tied (rule : Rule) : rulebook.ranking.compare rule rule = .eq := ReflCmp.compare_self
    rw [tied] at before
    cases before
  · have after := List.pairwise_iff_getElem.mp ordered _ _ secondInRange firstInRange more
    exact absurd after (OrientedCmp.not_lt_of_lt before)

/--
Unless the ranking goes by lines first, the more specific of two rules appears before
the other one among all rulings, for every request. So no rule that decides a request
is more specific than the one that gives the best ruling.
-/
theorem Made.more_specific_first
    (made : rulebook.Made)
    (ranked : ¬ rulebook.ranking.GoesByLine)
    (request : Request)
    (type : PolicyType) :
    (∀ first ∈ rulebook.rules, ∀ second ∈ rulebook.rules, first.MoreSpecific second →
      ∀ firstPlace secondPlace,
        rulebook.AppearsAt request type first firstPlace →
          rulebook.AppearsAt request type second secondPlace → firstPlace < secondPlace) ∧
      ∀ ruling best,
        rulebook.ruling? request type = some ruling →
          best ∈ rulebook.rules → best.line = ruling.line →
            ∀ other ∈ rulebook.rules,
              other.Decides request type → ¬ other.MoreSpecific best := by
  have precedes :
      ∀ first ∈ rulebook.rules, ∀ second ∈ rulebook.rules, first.MoreSpecific second →
        ∀ firstPlace secondPlace,
          rulebook.AppearsAt request type first firstPlace →
            rulebook.AppearsAt request type second secondPlace → firstPlace < secondPlace := by
    intro first firstMember second secondMember more firstPlace secondPlace
    have before : rulebook.ranking.compare first second = .lt :=
      Ranking.compare_of_moreSpecific more (made.proper second secondMember).distinct ranked
    exact made.place_lt_of_compare firstMember secondMember before
  refine ⟨precedes, ?_⟩
  intro ruling best ruled bestMember sameLine other otherMember decides more
  have bestAppears : rulebook.AppearsAt request type best 0 := by
    rw [ruling?_eq_head?, List.head?_eq_getElem?] at ruled
    exact ⟨ruling, ruled, sameLine.symm⟩
  obtain ⟨place, otherAppears⟩ := made.exists_appearsAt otherMember decides
  exact Nat.not_lt_zero place
    (precedes other otherMember best bestMember more place 0 otherAppears bestAppears)

/-- A rule on books for everybody but children. -/
def researchRule : Rule :=
  ⟨.allOf [⟨.materialType, .oneOf ["book"]⟩, ⟨.patronGroup, .noneOf ["child"]⟩],
    .ofPairs [(.loan, "research")], 2⟩

/-- A rule on all books. -/
def readingRule : Rule :=
  ⟨.allOf [⟨.materialType, .oneOf ["book"]⟩], .ofPairs [(.loan, "reading")], 3⟩

/-- Calls that rank the two rules by precedence and then prefer the later line. -/
def researchCalls : List DraftCall :=
  [.ranking (.ofKeys [.precedence .customary]),
    .rule researchRule.criteria researchRule.policies,
    .rule readingRule.criteria readingRule.policies,
    .fallback (.ofPairs [(.loan, "standard")])]

/-- The rulebook that the calls make. -/
def ofResearchCalls : Rulebook :=
  .ofRules (Draft.ofCalls researchCalls).ranking (Draft.ofCalls researchCalls).inOrder
    (.ofText (Draft.ofCalls researchCalls).text)

/-- An adult asks for a book. -/
def bookForAdult : Request :=
  ⟨"book", "short", "adult", "stack", none, none, none⟩

/-- Of the two rules the more specific one comes first, though the ranking prefers later lines. -/
theorem research_before_reading :
    ofResearchCalls.Made ∧ ¬ ofResearchCalls.ranking.GoesByLine ∧
      researchRule ∈ ofResearchCalls.rules ∧ readingRule ∈ ofResearchCalls.rules ∧
        researchRule.MoreSpecific readingRule ∧
          ∃ researchPlace readingPlace,
            ofResearchCalls.AppearsAt bookForAdult .loan researchRule researchPlace ∧
              ofResearchCalls.AppearsAt bookForAdult .loan readingRule readingPlace ∧
                researchPlace < readingPlace := by
  have made : ofResearchCalls.Made :=
    .ofDraft (Draft.finish_eq_ok_iff.mpr ⟨_, rfl, by decide, by decide, rfl⟩)
  have ranked : ¬ ofResearchCalls.ranking.GoesByLine := by
    rintro ⟨preference, first⟩
    cases first
  have researchMember : researchRule ∈ ofResearchCalls.rules :=
    (Draft.inOrder_perm _).mem_iff.mpr (by decide)
  have readingMember : readingRule ∈ ofResearchCalls.rules :=
    (Draft.inOrder_perm _).mem_iff.mpr (by decide)
  have more : researchRule.MoreSpecific readingRule :=
    { included := by simp [Rule.Constrains, researchRule, readingRule, Rule.criteria]
      extra :=
        ⟨.patronGroup, by simp [Rule.Constrains, researchRule, readingRule, Rule.criteria]⟩ }
  have researchDecides : researchRule.Decides bookForAdult .loan := by decide
  have readingDecides : readingRule.Decides bookForAdult .loan := by decide
  obtain ⟨researchPlace, researchAppears⟩ :=
    made.exists_appearsAt researchMember researchDecides
  obtain ⟨readingPlace, readingAppears⟩ := made.exists_appearsAt readingMember readingDecides
  obtain ⟨precedes, -⟩ := made.more_specific_first ranked bookForAdult .loan
  exact ⟨made, ranked, researchMember, readingMember, more, researchPlace, readingPlace,
    researchAppears, readingAppears,
    precedes _ researchMember _ readingMember more _ _ researchAppears readingAppears⟩

end Rulebook

end LendingRules
