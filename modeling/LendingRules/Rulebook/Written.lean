import LendingRules.Rulebook.Basic

namespace LendingRules

/-!
# Written rules

Rules are written as text by their ranking, on a line of its own, and then one
line for each rule, without indentation. What a rule inherited from the lines
around it is written out in full.
-/

/-- The rule text of some rules under a ranking. -/
def writtenRules (ranking : Ranking) (rules : List Rule) : String :=
  "priority: " ++ ranking.text ++ "\n" ++
    String.join (rules.map fun rule => rule.text ++ "\n")

namespace Rulebook

/-- The rule text that says in flat lines what the rulebook says. -/
def writtenText (rulebook : Rulebook) : String :=
  writtenRules rulebook.ranking rulebook.rules

end Rulebook

end LendingRules
