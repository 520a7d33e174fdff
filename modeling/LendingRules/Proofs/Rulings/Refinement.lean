import LendingRules.Proofs.Rulings.Matching

namespace LendingRules

open Std

/-!
# Rulings are those of plain matching

For every rulebook that can be made and every request, the rulings of a policy
type report exactly the rules that decide it, strictly best first. The best
ruling is that of the one rule that beats all others, and a decision is made
exactly when every policy type has a ruling.
-/

namespace PolicyTable

variable {Failure Value : Type} {value : PolicyType → Except Failure Value}

/-- A table is filled exactly when every value is there. -/
theorem ofFnM_eq_ok_iff {table : PolicyTable Value} :
    ofFnM value = .ok table ↔ ∀ type, value type = .ok (table.get type) := by
  simp only [ofFnM, bind_eq_ok_iff, pure, Except.pure, Except.ok.injEq]
  constructor
  · intro filled type
    rcases filled with
      ⟨loan, loanMade, request, requestMade, notice, noticeMade, overdueFine,
        overdueFineMade, lostItemFee, lostItemFeeMade, rfl⟩
    cases type <;> assumption
  · intro made
    exact ⟨_, made .loan, _, made .request, _, made .notice, _, made .overdueFine,
      _, made .lostItemFee, rfl⟩

/-- The failure is that of the first type whose value is missing. -/
theorem ofFnM_eq_error_iff
    (missing : PolicyType → Bool)
    (tells : ∀ type, missing type = !(value type).isOk)
    {failure : Failure} :
    ofFnM value = .error failure ↔
      ∃ type, PolicyType.all.find? missing = some type ∧ value type = .error failure := by
  rw [funext tells]
  simp only [ofFnM, PolicyType.all, bind, Except.bind]
  cases loan : value .loan with
  | error => simp [Except.isOk, Except.toBool, loan]
  | ok =>
      cases request : value .request with
      | error => simp [Except.isOk, Except.toBool, loan, request]
      | ok =>
          cases notice : value .notice with
          | error => simp [Except.isOk, Except.toBool, loan, request, notice]
          | ok =>
              cases overdueFine : value .overdueFine with
              | error =>
                  simp [Except.isOk, Except.toBool, loan, request, notice, overdueFine]
              | ok =>
                  cases lostItemFee : value .lostItemFee with
                  | error =>
                      simp [Except.isOk, Except.toBool, loan, request, notice,
                        overdueFine, lostItemFee]
                  | ok =>
                      simp [Except.isOk, Except.toBool, loan, request, notice,
                        overdueFine, lostItemFee, pure, Except.pure]

end PolicyTable

namespace Ruling

/--
What a ruling of a policy type tells about the rule it comes from: its policy
and line, the first facet in the precedence among those it constrains, which the
fallback alone lacks, and whether it constrains the item, the loan and the
patron.
-/
structure Reports
    (ruling : Ruling)
    (precedence : Precedence)
    (type : PolicyType)
    (rule : Rule) : Prop where
  policyId : rule.policies.get? type = some ruling.policyId
  policyType : ruling.policyType = type
  line : ruling.line = rule.line
  highestFacet : ∀ facet, ruling.highestFacet = some facet ↔
    ∃ before after, precedence.facets = before ++ facet :: after ∧
      rule.Constrains facet ∧ ∀ earlier ∈ before, ¬ rule.Constrains earlier
  highestFacet_eq_none : ruling.highestFacet = none ↔ rule.isFallback = true
  materialType : ruling.applied.materialType = true ↔ rule.Constrains .materialType
  loanType : ruling.applied.loanType = true ↔ rule.Constrains .loanType
  patronGroup : ruling.applied.patronGroup = true ↔ rule.Constrains .patronGroup

theorem highest?_facets_eq_none_iff
    {precedence : Precedence}
    {rule : Rule}
    (present : rule.isFallback = false → rule.criteria ≠ []) :
    precedence.highest? rule.facets = none ↔ rule.isFallback = true := by
  simp only [Precedence.highest?, List.find?_eq_none]
  constructor
  · intro unconstrained
    cases marked : rule.isFallback with
    | true => rfl
    | false =>
        obtain ⟨criterion, member⟩ := List.exists_mem_of_ne_nil _ (present marked)
        have constrained : criterion.facet ∈ rule.facets :=
          Rule.mem_facets.mpr ⟨criterion, member, rfl⟩
        exact absurd constrained
          (unconstrained criterion.facet (precedence.mem_facets criterion.facet))
  · intro fallback facet _ constrained
    obtain ⟨criterion, member, -⟩ := Rule.mem_facets.mp constrained
    simp [Rule.criteria_of_isFallback fallback] at member

/-- The ruling made from a rule reports it. -/
theorem reports_of_ofRule?
    {precedence : Precedence}
    {type : PolicyType}
    {rule : Rule}
    {ruling : Ruling}
    (present : rule.isFallback = false → rule.criteria ≠ [])
    (made : ofRule? precedence type rule = some ruling) :
    ruling.Reports precedence type rule := by
  have constrains (facet : Facet) :
      rule.facets.contains facet = true ↔ rule.Constrains facet := Rule.mem_facets
  obtain ⟨policyId, assigned, rfl⟩ := Option.map_eq_some_iff.mp made
  refine
    { policyId := assigned
      policyType := rfl
      line := rfl
      highestFacet := ?_
      highestFacet_eq_none := highest?_facets_eq_none_iff present
      materialType := constrains .materialType
      loanType := constrains .loanType
      patronGroup := constrains .patronGroup }
  intro facet
  simp only [Precedence.highest?, List.find?_eq_some_iff_append, Bool.not_eq_true',
    ← Bool.not_eq_true, constrains]
  constructor
  · intro found
    obtain ⟨here, before, after, shape, earlier⟩ := found
    exact ⟨before, after, shape, here, earlier⟩
  · intro found
    obtain ⟨before, after, shape, here, earlier⟩ := found
    exact ⟨here, before, after, shape, earlier⟩

end Ruling

namespace Rulebook

/-- The rules that decide a type for a request, each once, strictly best first. -/
structure RankedDeciders
    (rulebook : Rulebook)
    (request : Request)
    (type : PolicyType)
    (ranked : List Rule) : Prop where
  complete : ranked.Perm (rulebook.rules.filter fun rule => rule.Decides request type)
  bestFirst : ranked.Pairwise fun first second =>
    rulebook.ranking.compare first second = .lt
  fallbackLast : ∀ fallback ∈ ranked, fallback.isFallback = true →
    ranked.getLast? = some fallback

/-- A rule wins when it decides the type and beats every other that does. -/
def Wins
    (rulebook : Rulebook)
    (request : Request)
    (type : PolicyType)
    (best : Rule) : Prop :=
  best ∈ rulebook.rules ∧ best.Decides request type ∧
    ∀ other ∈ rulebook.rules, other.Decides request type → other ≠ best →
      rulebook.ranking.compare best other = .lt

/-- What it means that a rulebook answers a request as plain matching does. -/
structure AnswersPlainly (rulebook : Rulebook) (request : Request) : Prop where
  rulings : ∀ type, ∃ ranked, rulebook.RankedDeciders request type ranked ∧
    List.Forall₂
      (fun rule ruling =>
        Ruling.Reports ruling rulebook.ranking.precedence type rule)
      ranked (rulebook.rulings request type)
  ruling?_eq_head? : ∀ type,
    rulebook.ruling? request type = (rulebook.rulings request type).head?
  ruling?_eq_none : ∀ type, rulebook.ruling? request type = none ↔
    ∀ rule ∈ rulebook.rules, ¬ rule.Decides request type
  winner : ∀ type ruling, rulebook.ruling? request type = some ruling →
    ∃ best, rulebook.Wins request type best ∧
      ruling.Reports rulebook.ranking.precedence type best ∧
        ∀ other, rulebook.Wins request type other → other = best
  decision_eq_ok : ∀ decision, rulebook.decision request = .ok decision ↔
    ∀ type, rulebook.ruling? request type = some (decision.get type)
  decision_succeeds : (∃ decision, rulebook.decision request = .ok decision) ↔
    ∀ type, rulebook.rulings request type ≠ []
  decision_eq_error : ∀ type, rulebook.decision request = .error type ↔
    PolicyType.all.find? (fun type => (rulebook.rulings request type).isEmpty) =
      some type

variable {rulebook : Rulebook}

/-- Every candidate assigns the type, so each of them gives its ruling. -/
theorem Made.reports_rulings
    (made : rulebook.Made)
    (request : Request)
    (type : PolicyType) :
    List.Forall₂
      (fun rule ruling => Ruling.Reports ruling rulebook.ranking.precedence type rule)
      (rulebook.candidates request type) (rulebook.rulings request type) := by
  have reported :
      ∀ candidates : List Rule,
        (∀ rule ∈ candidates, rule ∈ rulebook.rules ∧ rule.Decides request type) →
          List.Forall₂
            (fun rule ruling =>
              Ruling.Reports ruling rulebook.ranking.precedence type rule)
            candidates
            (candidates.filterMap (Ruling.ofRule? rulebook.ranking.precedence type)) := by
    intro candidates deciding
    induction candidates with
    | nil => exact .nil
    | cons rule rest inductionHypothesis =>
        obtain ⟨member, assigned, -⟩ := deciding rule (by simp)
        rw [← Ruling.isSome_ofRule? rulebook.ranking.precedence] at assigned
        obtain ⟨ruling, given⟩ := Option.isSome_iff_exists.mp assigned
        rw [List.filterMap_cons_some given]
        refine .cons ?_ (inductionHypothesis fun other otherMember =>
          deciding other (by simp [otherMember]))
        exact Ruling.reports_of_ofRule? (made.soundRules.1.criteria_ne_nil rule member) given
  exact reported _ fun rule member => made.mem_candidates.mp member

/-- The first candidate, and only it, beats every other rule that decides. -/
theorem Made.wins_iff
    (made : rulebook.Made)
    {request : Request}
    {type : PolicyType}
    {first : Rule}
    {rest : List Rule}
    (shape : rulebook.candidates request type = first :: rest)
    {best : Rule} :
    rulebook.Wins request type best ↔ best = first := by
  have ordered :
      (rulebook.candidates request type).Pairwise fun first second =>
        rulebook.ranking.compare first second = .lt :=
    made.pairwise_candidates
  rw [shape] at ordered
  have beats := (List.pairwise_cons.mp ordered).1
  have firstMember : first ∈ rulebook.candidates request type := by simp [shape]
  have firstDecides := made.mem_candidates.mp firstMember
  constructor
  · intro wins
    by_contra different
    have bestMember : best ∈ rulebook.candidates request type :=
      made.mem_candidates.mpr ⟨wins.1, wins.2.1⟩
    have behind : best ∈ rest := by simpa [shape, different] using bestMember
    have winsOver : rulebook.ranking.compare best first = .lt :=
      wins.2.2 first firstDecides.1 firstDecides.2 (Ne.symm different)
    exact OrientedCmp.not_lt_of_lt winsOver (beats best behind)
  · intro same
    subst same
    refine ⟨firstDecides.1, firstDecides.2, ?_⟩
    intro other member decides different
    have otherMember : other ∈ rulebook.candidates request type :=
      made.mem_candidates.mpr ⟨member, decides⟩
    exact beats other (by simpa [shape, different] using otherMember)

theorem rulings_eq_nil_iff
    (made : rulebook.Made)
    {request : Request}
    {type : PolicyType} :
    rulebook.rulings request type = [] ↔
      ∀ rule ∈ rulebook.rules, ¬ rule.Decides request type := by
  have sameLength := (made.reports_rulings request type).length_eq
  rw [← List.length_eq_zero_iff, ← sameLength, List.length_eq_zero_iff,
    List.eq_nil_iff_forall_not_mem]
  constructor
  · intro none rule member decides
    exact none rule (made.mem_candidates.mpr ⟨member, decides⟩)
  · intro none rule member
    have deciding := made.mem_candidates.mp member
    exact none rule deciding.1 deciding.2

theorem ruling?_eq_none_iff {request : Request} {type : PolicyType} :
    rulebook.ruling? request type = none ↔ rulebook.rulings request type = [] := by
  rw [ruling?_eq_head?, List.head?_eq_none_iff]

theorem decision_eq_ok_iff {request : Request} {decided : Decision} :
    rulebook.decision request = .ok decided ↔
      ∀ type, rulebook.ruling? request type = some (decided.get type) := by
  rw [decision, PolicyTable.ofFnM_eq_ok_iff]
  refine forall_congr' fun type => ?_
  cases rulebook.ruling? request type <;> simp

/-- A decision fails on the first type for which there is no ruling. -/
theorem decision_eq_error_iff {request : Request} {type : PolicyType} :
    rulebook.decision request = .error type ↔
      PolicyType.all.find? (fun type => (rulebook.rulings request type).isEmpty) =
        some type := by
  rw [decision, PolicyTable.ofFnM_eq_error_iff
    (fun type => (rulebook.rulings request type).isEmpty) ?tells]
  case tells =>
    intro type
    rw [ruling?_eq_head?]
    cases rulebook.rulings request type <;> rfl
  constructor
  · intro failed
    obtain ⟨first, found, failure⟩ := failed
    cases ruled : rulebook.ruling? request first with
    | some ruling => simp [ruled] at failure
    | none =>
        simp only [ruled, Except.error.injEq] at failure
        exact failure ▸ found
  · intro found
    have empty := List.find?_some found
    refine ⟨type, found, ?_⟩
    rw [ruling?_eq_none_iff.mpr (List.isEmpty_iff.mp empty)]

/-- Every rulebook that can be made answers every request as plain matching does. -/
theorem answersPlainly_of_made
    (made : rulebook.Made)
    (request : Request) :
    rulebook.AnswersPlainly request where
  rulings type := by
    refine ⟨rulebook.candidates request type, ?_, made.reports_rulings request type⟩
    exact
      { complete := made.candidates_perm
        bestFirst := made.pairwise_candidates
        fallbackLast := fun fallback => made.getLast?_candidates }
  ruling?_eq_head? type := ruling?_eq_head? rulebook request type
  ruling?_eq_none type := by
    rw [ruling?_eq_none_iff, rulings_eq_nil_iff made]
  winner type ruling ruled := by
    rw [ruling?_eq_head?] at ruled
    have reports := made.reports_rulings request type
    obtain ⟨others, shape⟩ := List.head?_eq_some_iff.mp ruled
    rw [shape] at reports
    obtain ⟨first, rest, report, -, candidates⟩ := List.forall₂_cons_right_iff.mp reports
    refine ⟨first, (made.wins_iff candidates).mpr rfl, report, ?_⟩
    intro other wins
    exact (made.wins_iff candidates).mp wins
  decision_eq_ok decision := decision_eq_ok_iff
  decision_succeeds := by
    constructor
    · intro succeeds type empty
      obtain ⟨decided, made⟩ := succeeds
      have ruled := decision_eq_ok_iff.mp made type
      rw [ruling?_eq_none_iff.mpr empty] at ruled
      cases ruled
    · intro present
      cases decided : rulebook.decision request with
      | ok decision => exact ⟨decision, rfl⟩
      | error type =>
          have empty := List.find?_some (decision_eq_error_iff.mp decided)
          exact absurd (List.isEmpty_iff.mp empty) (present type)
  decision_eq_error type := decision_eq_error_iff

/-- Calls that lend books on a rule of their own. -/
def bookCalls : List DraftCall :=
  [.fallback (.ofPairs [(.loan, "standard")]),
    .rule [⟨.materialType, .oneOf ["book"]⟩] (.ofPairs [(.loan, "reading")])]

/-- The rulebook that the calls make. -/
def ofBookCalls : Rulebook :=
  .ofRules (Draft.ofCalls bookCalls).ranking (Draft.ofCalls bookCalls).inOrder
    (.ofText (Draft.ofCalls bookCalls).text)

theorem made_ofBookCalls : ofBookCalls.Made := by
  have finished : (Draft.ofCalls bookCalls).finish = .ok ofBookCalls :=
    Draft.finish_eq_ok_iff.mpr ⟨_, rfl, by decide, by decide, rfl⟩
  exact .ofDraft finished

/-- A request for a book is answered plainly by the rulebook of the calls. -/
theorem answersPlainly_ofBookCalls :
    ofBookCalls.Made ∧
      ofBookCalls.AnswersPlainly
        ⟨"book", "short", "adult", "stack", none, none, none⟩ :=
  ⟨made_ofBookCalls, answersPlainly_of_made made_ofBookCalls _⟩

end Rulebook

end LendingRules
