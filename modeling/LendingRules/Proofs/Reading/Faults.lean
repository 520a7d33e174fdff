import LendingRules.Proofs.Reading.Enclosure
import Mathlib.Data.List.Duplicate

namespace LendingRules

/-!
# Faults of a document

What can be wrong with a document whose text is well formed, said without
walking through it: a fault of the ranking line, of one entry seen among the
others, or of the document as a whole. Every fault lies on a line and has the
problem that tells it.
-/

/-- What keeps a list of letters from naming each of the facets once. -/
inductive LetterList.Fault (list : LetterList) : RuleProblem → Prop
  | tooMany
      (longer : Facet.all.length < list.letters.length) :
      Fault list (.tooManyLetters list.letters.length)
  | tooFew
      (shorter : list.letters.length < Facet.all.length) :
      Fault list (.tooFewLetters list.letters.length)
  | repeated
      {facet : Facet}
      (twice : List.Duplicate facet (list.letters.map LetterToken.facet)) :
      Fault list (.repeatedLetter facet)

/-- What keeps a policy list from assigning some types, each of them once. -/
inductive PolicyList.Fault (list : PolicyList) : RuleProblem → Prop
  | missing
      (nothing : list.tokens = []) :
      Fault list .policyMissingAfterColon
  | repeated
      {type : PolicyType}
      (twice : List.Duplicate type (list.tokens.map PolicyToken.type)) :
      Fault list (.repeatedPolicy type)

namespace RankingItem

/-- The letters that an item lists. -/
def letters? (item : RankingItem) : Option LetterList :=
  match item.kind with
  | .letters list | .precedence list => some list
  | .criteriaCount | .line _ => none

/-- The kind of the key that an item stands for. -/
def keyKind (item : RankingItem) : RankingKeyKind :=
  match item.kind with
  | .letters _ | .precedence _ => .precedence
  | .criteriaCount => .criteriaCount
  | .line _ => .line

/-- What is wrong with the items of a ranking line. -/
inductive Fault (items : List RankingItem) : RuleProblem → Prop
  | letters
      {item : RankingItem}
      {list : LetterList}
      {problem : RuleProblem}
      (member : item ∈ items)
      (lists : item.letters? = some list)
      (fault : list.Fault problem) :
      Fault items problem
  | repeatedKey
      {kind : RankingKeyKind}
      (twice : List.Duplicate kind (items.map keyKind)) :
      Fault items .repeatedRankingKey
  | lineKeyNotLast
      {item : RankingItem}
      (member : item ∈ items.dropLast)
      (isLine : item.keyKind = .line) :
      Fault items .lineKeyNotLast

end RankingItem

/--
What is wrong with the entry at a position. Whether a facet is repeated depends
on the enclosers, whether a header stays empty on the entry that comes next.
-/
inductive Entry.Fault (entries : List Entry) (position : Nat) : RuleProblem → Prop
  | indentedFallback
      {entry : Entry}
      (stands : entries[position]? = some entry)
      (fallback : entry.isFallback = true)
      (indented : 0 < entry.indent) :
      Fault entries position .indentedFallback
  | repeatedFallback
      {entry earlierEntry : Entry}
      {earlier : Nat}
      (stands : entries[position]? = some entry)
      (fallback : entry.isFallback = true)
      (before : earlier < position)
      (earlierStands : entries[earlier]? = some earlierEntry)
      (earlierFallback : earlierEntry.isFallback = true) :
      Fault entries position .repeatedFallback
  | policies
      {entry : Entry}
      {list : PolicyList}
      {problem : RuleProblem}
      (stands : entries[position]? = some entry)
      (carries : entry.policies? = some list)
      (fault : list.Fault problem) :
      Fault entries position problem
  | repeatedOnLine
      {line indent : Nat}
      {tokens : List CriterionToken}
      {list? : Option PolicyList}
      {facet : Facet}
      (stands : entries[position]? = some ⟨line, indent, .criteria tokens list?⟩)
      (twice : List.Duplicate facet (tokens.map CriterionToken.facet)) :
      Fault entries position (.repeatedFacet facet)
  | repeatedInside
      {line indent : Nat}
      {tokens : List CriterionToken}
      {list? : Option PolicyList}
      {facet : Facet}
      {chain : List Nat}
      {outer : Nat}
      (stands : entries[position]? = some ⟨line, indent, .criteria tokens list?⟩)
      (here : facet ∈ tokens.map CriterionToken.facet)
      (enclosers : Enclosers entries position chain)
      (around : outer ∈ chain)
      (there : facet ∈ (criteriaAt entries outer).map Criterion.facet) :
      Fault entries position (.repeatedFacet facet)
  | mixedNegation
      {line indent : Nat}
      {tokens : List CriterionToken}
      {list? : Option PolicyList}
      {token : CriterionToken}
      (stands : entries[position]? = some ⟨line, indent, .criteria tokens list?⟩)
      (member : token ∈ tokens)
      (mixed : ¬ token.Uniform) :
      Fault entries position .mixedNegation
  | emptyHeader
      {line indent : Nat}
      {tokens : List CriterionToken}
      (stands : entries[position]? = some ⟨line, indent, .criteria tokens none⟩)
      (unfollowed : ∀ next, entries[position + 1]? = some next → next.indent ≤ indent) :
      Fault entries position .policyMissing

/-- What is wrong with a document, and on which line. -/
inductive Document.Fault (document : Document) : Nat → RuleProblem → Prop
  | ranking
      {problem : RuleProblem}
      (fault : RankingItem.Fault document.rankingItems problem) :
      Fault document document.rankingLine problem
  | entry
      {position : Nat}
      {entry : Entry}
      {problem : RuleProblem}
      (stands : document.entries[position]? = some entry)
      (fault : Entry.Fault document.entries position problem) :
      Fault document entry.line problem
  | fallbackMissing
      (missing : ∀ entry ∈ document.entries, entry.isFallback = false) :
      Fault document (document.lastLine + 1) .fallbackMissing

end LendingRules
