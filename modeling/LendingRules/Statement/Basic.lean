import LendingRules.Ranking.Basic

namespace LendingRules

/-!
# Statements of rule text

A line of rule text that is neither blank nor a comment is a statement: it
declares the ranking, gives the fallback policies, or states criteria with or
without policies. Every token keeps the column it stands at, so that whatever
is wrong with it can be pointed out later.
-/

/-- The letter of a facet in a ranking. -/
structure LetterToken where
  facet : Facet
  column : Nat
  deriving Repr, DecidableEq

/-- Letters of facets, with the column where the list begins. -/
structure LetterList where
  column : Nat
  letters : List LetterToken
  deriving Repr, DecidableEq

/-- What one item of a ranking line says. -/
inductive RankingItemKind where
  | letters (list : LetterList)
  | precedence (list : LetterList)
  | criteriaCount
  | line (preference : LinePreference)
  deriving Repr, DecidableEq

/-- One item of a ranking line. -/
structure RankingItem where
  column : Nat
  kind : RankingItemKind
  deriving Repr, DecidableEq

/-- A policy type with a policy id. -/
structure PolicyToken where
  type : PolicyType
  id : String
  column : Nat
  deriving Repr, DecidableEq

/-- The policies after a colon, with the column of the colon. -/
structure PolicyList where
  colon : Nat
  tokens : List PolicyToken
  deriving Repr, DecidableEq

/-- An id in a criterion, without the exclamation mark that negates it. -/
structure NameToken where
  name : String
  negated : Bool
  column : Nat
  deriving Repr, DecidableEq

/-- The letter of a facet with the ids that follow it. -/
structure CriterionToken where
  facet : Facet
  column : Nat
  names : List NameToken
  deriving Repr, DecidableEq

/-- A statement other than the ranking. -/
inductive Clause where
  | fallback (policies : PolicyList)
  | criteria (criteria : List CriterionToken) (policies : Option PolicyList)
  deriving Repr, DecidableEq

/-- What one line of rule text states. -/
inductive Statement where
  | ranking (items : List RankingItem)
  | clause (clause : Clause)
  deriving Repr, DecidableEq

end LendingRules
