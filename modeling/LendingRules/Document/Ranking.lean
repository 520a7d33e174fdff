import LendingRules.Document.Basic
import LendingRules.Document.Repetition
import LendingRules.Document.RuleError

namespace LendingRules

/-!
# The ranking a document declares

A list of letters has to name every facet exactly once. Of the keys each kind
may occur once, the two line preferences being of one kind, and a line
preference has to be the last key.
-/

namespace LetterList

/-- The precedence given by a list of letters on a line. -/
def precedence (list : LetterList) (line : Nat) : Except RuleError Precedence :=
  let found := list.letters.length
  if Facet.all.length < found then
    .error ⟨line, list.column, .tooManyLetters found⟩
  else
    match firstRepeat? LetterToken.facet list.letters with
    | some token => .error ⟨line, token.column, .repeatedLetter token.facet⟩
    | none =>
        match Precedence.ofList? (list.letters.map LetterToken.facet) with
        | some precedence => .ok precedence
        | none => .error ⟨line, list.column, .tooFewLetters found⟩

end LetterList

/-- The kinds of ranking key of which each may occur once. -/
inductive RankingKeyKind where
  | criteriaCount
  | precedence
  | line
  deriving Repr, DecidableEq

namespace RankingKey

/-- The kind of a key. -/
def kind : RankingKey → RankingKeyKind
  | criteriaCount => .criteriaCount
  | precedence _ => .precedence
  | line _ => .line

end RankingKey

namespace RankingItem

/-- The key that an item on a line stands for. -/
def key (item : RankingItem) (line : Nat) : Except RuleError RankingKey :=
  match item.kind with
  | .letters list | .precedence list => .precedence <$> list.precedence line
  | .criteriaCount => .ok .criteriaCount
  | .line preference => .ok (.line preference)

/-- The keys of the items on a line, given the kinds that came before them. -/
def keysAfter
    (line : Nat)
    (seen : List RankingKeyKind) :
    List RankingItem → Except RuleError (List RankingKey)
  | [] => .ok []
  | item :: rest => do
      let key ← item.key line
      if key.kind ∈ seen then
        .error ⟨line, item.column, .repeatedRankingKey⟩
      else if key.kind = .line ∧ rest ≠ [] then
        .error ⟨line, item.column, .lineKeyNotLast⟩
      else
        let keys ← keysAfter line (key.kind :: seen) rest
        return key :: keys

end RankingItem

namespace Document

/-- The ranking that the ranking line declares. -/
def ranking (document : Document) : Except RuleError Ranking :=
  match document.rankingItems with
  | [⟨_, .letters list⟩] =>
      .ofPrecedence <$> list.precedence document.rankingLine
  | items => .ofKeys <$> RankingItem.keysAfter document.rankingLine [] items

end Document

end LendingRules
