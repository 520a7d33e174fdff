import LendingRules.Ranking.Precedence
import LendingRules.Rule.Basic

namespace LendingRules

/-!
# Rankings

A ranking decides which of several matching rules comes first. It is a list of
keys tried in order, and its last key always goes by the line of the rule, so
that rules on different lines never tie. Whatever the keys say, the fallback
comes after every other rule.
-/

/-- Which of two rules wins by its line. -/
inductive LinePreference where
  | firstLine
  | lastLine
  deriving Repr, DecidableEq

/-- One key of a ranking. -/
inductive RankingKey where
  | criteriaCount
  | precedence (order : Precedence)
  | line (preference : LinePreference)
  deriving Repr, DecidableEq

namespace LinePreference

/-- The word for the preference in rule text. -/
def text : LinePreference → String
  | firstLine => "first-line"
  | lastLine => "last-line"

/-- Put the rule on the preferred line first. -/
def compare (preference : LinePreference) (first second : Rule) : Ordering :=
  match preference with
  | firstLine => Ord.compare first.line second.line
  | lastLine => Ord.compare second.line first.line

end LinePreference

namespace RankingKey

/-- The word for the key in rule text. -/
def text : RankingKey → String
  | criteriaCount => "number-of-criteria"
  | precedence order => "criterium(" ++ order.text ++ ")"
  | line preference => preference.text

/--
Put first the rule with more criteria, with facets of higher precedence, or on
the preferred line.
-/
def compare : RankingKey → Rule → Rule → Ordering
  | criteriaCount => fun first second => Ord.compare second.specificity first.specificity
  | precedence order => fun first second => order.compare first.facets second.facets
  | line preference => preference.compare

end RankingKey

/-- The keys before the last, and the line preference that is the last key. -/
structure Ranking where
  leading : List RankingKey
  final : LinePreference
  deriving Repr, DecidableEq

namespace Ranking

/-- All keys in the order in which they are tried. -/
def keys (ranking : Ranking) : List RankingKey :=
  ranking.leading ++ [.line ranking.final]

/--
The ranking a bare list of seven letters stands for: more criteria first, then
the listed precedence, then the later line.
-/
def ofPrecedence (order : Precedence) : Ranking where
  leading := [.criteriaCount, .precedence order]
  final := .lastLine

/--
The ranking with the given keys, followed by a preference for the later line
unless the keys already end with a line preference.
-/
def ofKeys (keys : List RankingKey) : Ranking :=
  match keys.getLast? with
  | some (.line preference) => ⟨keys.dropLast, preference⟩
  | _ => ⟨keys, .lastLine⟩

/-- The ranking in force when nothing is said. -/
def standard : Ranking :=
  ofPrecedence .customary

/-- The first precedence among the keys, or else the customary one. -/
def precedence (ranking : Ranking) : Precedence :=
  (ranking.leading.findSome? fun
    | .precedence order => some order
    | _ => none).getD .customary

/-- Whether one rule comes before another; the fallback comes last. -/
def compare (ranking : Ranking) : Rule → Rule → Ordering :=
  compareLex (compareOn Rule.isFallback)
    (lexicographic (ranking.keys.map RankingKey.compare))

/-- Whether a rule may stand before another in ranked order. -/
def le (ranking : Ranking) (first second : Rule) : Bool :=
  (ranking.compare first second).isLE

/-- The keys separated by commas. -/
def text (ranking : Ranking) : String :=
  ", ".intercalate (ranking.keys.map RankingKey.text)

/-- The last key is a line preference. -/
theorem getLast?_keys (ranking : Ranking) :
    ranking.keys.getLast? = some (.line ranking.final) := by
  simp [keys]

/-- Keys that end with a line preference are kept as they are. -/
theorem keys_ofKeys_append_line
    (leading : List RankingKey)
    (preference : LinePreference) :
    (ofKeys (leading ++ [.line preference])).keys =
      leading ++ [.line preference] := by
  simp [ofKeys, keys]

end Ranking

end LendingRules
