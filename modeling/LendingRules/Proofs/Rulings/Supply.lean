import LendingRules.Proofs.Rulings.Specificity

namespace LendingRules

/-!
# Knowing more about the place only adds rulings

A request may leave out the library, the campus and the institution of an item. No
criterion accepts an id that is missing, whether it lists ids, excludes them or asks
for any. So the rules that decide such a request are those that would also decide it
with the id filled in and do not constrain its facet. The order of the rules does not
depend on the request, and so the old rulings keep their order among the new ones.
-/

namespace Request

/-- The request with an id filled in for a facet. -/
def supply (request : Request) (facet : Facet) (id : String) : Request :=
  match facet with
  | .loanType => { request with loanType := id }
  | .shelvingLocation => { request with shelvingLocation := id }
  | .library => { request with library := some id }
  | .campus => { request with campus := some id }
  | .institution => { request with institution := some id }
  | .materialType => { request with materialType := id }
  | .patronGroup => { request with patronGroup := id }

@[simp] theorem get?_supply_self (request : Request) (facet : Facet) (id : String) :
    (request.supply facet id).get? facet = some id := by
  cases facet <;> rfl

/-- Filling in one id leaves all others as they are. -/
theorem get?_supply_of_ne
    {facet other : Facet}
    (different : other ≠ facet)
    (request : Request)
    (id : String) :
    (request.supply facet id).get? other = request.get? other := by
  cases facet <;> cases other <;> first | rfl | exact absurd rfl different

end Request

variable {request : Request} {facet : Facet}

theorem Criterion.holds_eq_false_of_lacks
    {criterion : Criterion}
    (lacks : request.get? criterion.facet = none) :
    criterion.holds request = false := by
  rw [holds, accepts, lacks, IdTest.accepts_none]

theorem Criterion.holds_supply_of_ne
    {criterion : Criterion}
    (different : criterion.facet ≠ facet)
    (request : Request)
    (id : String) :
    criterion.holds (request.supply facet id) = criterion.holds request := by
  rw [holds, holds, Request.get?_supply_of_ne different]

/--
A rule holds without an id for a facet exactly when it does not constrain the facet
and holds with whatever id is filled in.
-/
theorem Rule.holds_iff_of_lacks
    (lacks : request.get? facet = none)
    (id : String)
    (rule : Rule) :
    rule.holds request = true ↔
      ¬ rule.Constrains facet ∧ rule.holds (request.supply facet id) = true := by
  simp only [holds, List.all_eq_true]
  constructor
  · intro satisfied
    have free : ∀ criterion ∈ rule.criteria, criterion.facet ≠ facet := by
      rintro criterion member rfl
      have holdsHere := satisfied criterion member
      rw [Criterion.holds_eq_false_of_lacks lacks] at holdsHere
      cases holdsHere
    constructor
    · rintro ⟨criterion, member, same⟩
      exact free criterion member same
    · intro criterion member
      rw [Criterion.holds_supply_of_ne (free criterion member)]
      exact satisfied criterion member
  · rintro ⟨free, satisfied⟩ criterion member
    have different : criterion.facet ≠ facet := fun same => free ⟨criterion, member, same⟩
    rw [← Criterion.holds_supply_of_ne different request id]
    exact satisfied criterion member

/-- The facets of a rule are those that it constrains. -/
theorem Rule.contains_facets_iff {rule : Rule} :
    rule.facets.contains facet = true ↔ rule.Constrains facet :=
  mem_facets

namespace Rulebook

variable {rulebook : Rulebook} {type : PolicyType}

/-- Without the id the candidates are those that do not constrain its facet, in their order. -/
theorem candidates_of_lacks
    (lacks : request.get? facet = none)
    (id : String) :
    rulebook.candidates request type =
      (rulebook.candidates (request.supply facet id) type).filter fun rule =>
        !rule.facets.contains facet := by
  rw [candidates, candidates, List.filter_filter]
  refine List.filter_congr fun rule _ => ?_
  rw [matchesRule_eq_holds, matchesRule_eq_holds, Bool.eq_iff_iff,
    Rule.holds_iff_of_lacks lacks id, Bool.and_eq_true, Bool.not_eq_true',
    ← Rule.contains_facets_iff, Bool.not_eq_true]

/-- A ruling is among the rulings when a candidate gives it. -/
theorem mem_rulings {ruling : Ruling} :
    ruling ∈ rulebook.rulings request type ↔
      ∃ rule ∈ rulebook.candidates request type,
        Ruling.ofRule? rulebook.ranking.precedence type rule = some ruling :=
  List.mem_filterMap

/--
When an id that a request lacks is filled in, all its rulings stay as they are, in
their order. Of the rulings then given, the new ones are exactly those of rules that
constrain the facet of the id.
-/
theorem Made.supply_only_adds
    (made : rulebook.Made)
    (lacks : request.get? facet = none)
    (id : String)
    (type : PolicyType) :
    (rulebook.rulings request type).Sublist
        (rulebook.rulings (request.supply facet id) type) ∧
      ∀ ruling ∈ rulebook.rulings (request.supply facet id) type,
        ∃ rule ∈ rulebook.rules,
          ruling.Reports rulebook.ranking.precedence type rule ∧
            (ruling ∉ rulebook.rulings request type ↔ rule.Constrains facet) := by
  have fewer :
      (rulebook.candidates request type).Sublist
        (rulebook.candidates (request.supply facet id) type) := by
    rw [candidates_of_lacks lacks id]
    exact List.filter_sublist
  refine ⟨fewer.filterMap _, ?_⟩
  intro ruling given
  obtain ⟨rule, candidate, gives⟩ := mem_rulings.mp given
  obtain ⟨member, -⟩ := made.mem_candidates.mp candidate
  have present := made.soundRules.1.criteria_ne_nil
  refine ⟨rule, member, Ruling.reports_of_ofRule? (present rule member) gives, ?_⟩
  constructor
  · intro added
    by_contra free
    refine added (mem_rulings.mpr ⟨rule, ?_, gives⟩)
    rw [candidates_of_lacks lacks id, List.mem_filter, Bool.not_eq_true', ← Bool.not_eq_true,
      Rule.contains_facets_iff]
    exact ⟨candidate, free⟩
  · intro constrains old
    obtain ⟨other, otherCandidate, otherGives⟩ := mem_rulings.mp old
    obtain ⟨otherMember, -⟩ := made.mem_candidates.mp otherCandidate
    have sameLine : other.line = rule.line :=
      (Ruling.reports_of_ofRule? (present other otherMember) otherGives).line.symm.trans
        (Ruling.reports_of_ofRule? (present rule member) gives).line
    have same : other = rule := made.soundRules.1.eq_of_line otherMember member sameLine
    rw [same, candidates_of_lacks lacks id, List.mem_filter,
      Rule.contains_facets_iff.mpr constrains] at otherCandidate
    cases otherCandidate.2

/-- Calls with a rule that excludes one library and a rule for every institution. -/
def placeCalls : List DraftCall :=
  [.fallback (.ofPairs [(.loan, "standard")]),
    .rule [⟨.library, .noneOf ["annex"]⟩] (.ofPairs [(.loan, "open")]),
    .rule [⟨.institution, .anyId⟩] (.ofPairs [(.loan, "shared")])]

/-- The rulebook that the calls make. -/
def ofPlaceCalls : Rulebook :=
  .ofRules (Draft.ofCalls placeCalls).ranking (Draft.ofCalls placeCalls).inOrder
    (.ofText (Draft.ofCalls placeCalls).text)

/-- Naming the library of the book adds a ruling, that of the rule that excludes another one. -/
theorem supply_library_adds :
    ofPlaceCalls.Made ∧ bookForAdult.get? .library = none ∧
      (ofPlaceCalls.rulings bookForAdult .loan).Sublist
          (ofPlaceCalls.rulings (bookForAdult.supply .library "main") .loan) ∧
        ∃ ruling ∈ ofPlaceCalls.rulings (bookForAdult.supply .library "main") .loan,
          ruling ∉ ofPlaceCalls.rulings bookForAdult .loan := by
  have made : ofPlaceCalls.Made :=
    .ofDraft (Draft.finish_eq_ok_iff.mpr ⟨_, rfl, by decide, by decide, rfl⟩)
  have lacks : bookForAdult.get? .library = none := rfl
  obtain ⟨kept, added⟩ := made.supply_only_adds lacks "main" .loan
  have member :
      ⟨.allOf [⟨.library, .noneOf ["annex"]⟩], .ofPairs [(.loan, "open")], 3⟩ ∈
        ofPlaceCalls.rules :=
    (Draft.inOrder_perm _).mem_iff.mpr (by decide)
  obtain ⟨place, ruling, stands, sameLine⟩ :=
    made.exists_appearsAt member
      (by decide : Rule.Decides _ (bookForAdult.supply .library "main") .loan)
  have given := List.mem_of_getElem? stands
  obtain ⟨rule, ruleMember, report, new⟩ := added ruling given
  have same := made.soundRules.1.eq_of_line ruleMember member (report.line.symm.trans sameLine)
  refine ⟨made, rfl, kept, ruling, given, new.mpr ?_⟩
  rw [same]
  exact ⟨_, List.mem_singleton_self _, rfl⟩

end Rulebook

end LendingRules
