import LendingRules.Digest.Basic
import LendingRules.Ruling.Basic
import LendingRules.Rulebook.Index

namespace LendingRules

/-!
# Rulebooks

A rulebook holds self-contained rules in the order of their lines, ranked once
for all requests, together with the digest of the text it was made from. It
answers a request with the rulings of the rules that match, best first.
-/

/-- Ranked rules ready to answer requests. -/
structure Rulebook where
  ranking : Ranking
  rules : List Rule
  index : RankedIndex
  fallbackPosition : Nat
  digest : Digest
  deriving Repr, DecidableEq

namespace Rulebook

/-- Rank some rules; the first fallback among them is the rulebook's. -/
def ofRules (ranking : Ranking) (rules : List Rule) (digest : Digest) : Rulebook where
  ranking
  rules
  index := .build ranking rules
  fallbackPosition :=
    (rules.findIdx? Rule.isFallback).getD (rules.length - 1)
  digest

theorem ranking_ofRules (ranking : Ranking) (rules : List Rule) (digest : Digest) :
    (ofRules ranking rules digest).ranking = ranking := rfl

theorem rules_ofRules (ranking : Ranking) (rules : List Rule) (digest : Digest) :
    (ofRules ranking rules digest).rules = rules := rfl

/-- The fallback rule. -/
def fallback? (rulebook : Rulebook) : Option Rule :=
  rulebook.rules[rulebook.fallbackPosition]?

/-- The number of rules. -/
def size (rulebook : Rulebook) : Nat :=
  rulebook.rules.length

/-- Whether there is no rule. -/
def isEmpty (rulebook : Rulebook) : Bool :=
  rulebook.rules.isEmpty

/-- The facets that at least one rule constrains. -/
def facetsUsed (rulebook : Rulebook) : FacetSet :=
  rulebook.index.facetsUsed

/-- The rulebook as shown to people. -/
def text (rulebook : Rulebook) : String :=
  "RuleSet(" ++ toString rulebook.size ++ " lines, fallback at line " ++
    toString (rulebook.fallback?.elim 0 Rule.line) ++ ", ranking: " ++
    rulebook.ranking.text ++ ")"

/-- Whether a request supplies every facet of a rule and meets its criteria. -/
def matchesRule (request : Request) (rule : Rule) : Bool :=
  rule.facets.isSubset request.facets && rule.holds request

/-- The rules assigning a policy type that match a request, best first. -/
def candidates
    (rulebook : Rulebook)
    (request : Request)
    (type : PolicyType) :
    List Rule :=
  ((rulebook.index.positions.get type).filterMap fun position =>
    rulebook.rules[position]?).filter (matchesRule request)

/-- The best ruling of a type for a request. -/
def ruling?
    (rulebook : Rulebook)
    (request : Request)
    (type : PolicyType) :
    Option Ruling :=
  (rulebook.candidates request type).findSome?
    (Ruling.ofRule? rulebook.ranking.precedence type)

/-- Every ruling of a type for a request, best first. -/
def rulings
    (rulebook : Rulebook)
    (request : Request)
    (type : PolicyType) :
    List Ruling :=
  (rulebook.candidates request type).filterMap
    (Ruling.ofRule? rulebook.ranking.precedence type)

/-- The report of every ruling of a type. -/
def report (rulebook : Rulebook) (request : Request) (type : PolicyType) : Report where
  policyType := type
  rulings := rulebook.rulings request type

/--
The best ruling of each policy type, or else the first type for which there is
no ruling.
-/
def decision (rulebook : Rulebook) (request : Request) : Except PolicyType Decision :=
  PolicyTable.ofFnM fun type =>
    match rulebook.ruling? request type with
    | some ruling => .ok ruling
    | none => .error type

/-- The separate test of the facets never rejects a rule whose criteria hold. -/
theorem matchesRule_eq_holds (request : Request) (rule : Rule) :
    matchesRule request rule = rule.holds request := by
  cases satisfied : rule.holds request with
  | false => simp [matchesRule, satisfied]
  | true => simp [matchesRule, satisfied, Rule.facets_subset_of_holds satisfied]

/-- The best ruling is the first of all rulings. -/
theorem ruling?_eq_head?
    (rulebook : Rulebook)
    (request : Request)
    (type : PolicyType) :
    rulebook.ruling? request type = (rulebook.rulings request type).head? := by
  simp [ruling?, rulings, List.head?_filterMap]

end Rulebook

end LendingRules
