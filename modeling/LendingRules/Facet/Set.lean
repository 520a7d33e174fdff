import LendingRules.Facet.Table

namespace LendingRules

/-!
# Sets of facets

A set is given by which facets it contains. Union, insertion and the subset
test are described by membership alone, and listing a set follows the customary
order of facets.
-/

/-- A set of facets, given by the facets it contains. -/
structure FacetSet where
  membership : FacetTable Bool
  deriving Repr, DecidableEq

namespace FacetSet

/-- Whether a facet belongs to the set. -/
def contains (set : FacetSet) (facet : Facet) : Bool :=
  set.membership.get facet

instance : Membership Facet FacetSet where
  mem set facet := set.contains facet = true

instance (facet : Facet) (set : FacetSet) : Decidable (facet ∈ set) :=
  inferInstanceAs (Decidable (set.contains facet = true))

/-- The facets satisfying a test. -/
def ofPredicate (test : Facet → Bool) : FacetSet :=
  ⟨.ofFn test⟩

/-- The set without facets. -/
def empty : FacetSet :=
  ofPredicate fun _ => false

/-- Add one facet. -/
def insert (set : FacetSet) (facet : Facet) : FacetSet :=
  ofPredicate fun other => other = facet || set.contains other

/-- The facets of either set. -/
def union (first second : FacetSet) : FacetSet :=
  ofPredicate fun facet => first.contains facet || second.contains facet

/-- The facets occurring in a list. -/
def ofList (facets : List Facet) : FacetSet :=
  ofPredicate fun facet => facets.contains facet

/-- The members in the customary order. -/
def toList (set : FacetSet) : List Facet :=
  Facet.all.filter set.contains

/-- The number of members. -/
def size (set : FacetSet) : Nat :=
  set.toList.length

/-- Whether the set has no members. -/
def isEmpty (set : FacetSet) : Bool :=
  set.toList.isEmpty

/-- Whether every member of the first set is a member of the second. -/
def isSubset (first second : FacetSet) : Bool :=
  Facet.all.all fun facet => !first.contains facet || second.contains facet

/-- The letters of the members, in the customary order. -/
def letters (set : FacetSet) : String :=
  String.ofList (set.toList.map Facet.letter)

theorem mem_iff {facet : Facet} {set : FacetSet} :
    facet ∈ set ↔ set.contains facet = true :=
  Iff.rfl

@[simp] theorem contains_ofPredicate (test : Facet → Bool) (facet : Facet) :
    (ofPredicate test).contains facet = test facet := by
  simp [contains, ofPredicate]

@[simp] theorem contains_empty (facet : Facet) :
    empty.contains facet = false := by
  simp [empty]

@[simp] theorem contains_insert (set : FacetSet) (facet other : Facet) :
    (set.insert facet).contains other =
      (decide (other = facet) || set.contains other) := by
  simp [insert]

@[simp] theorem contains_union (first second : FacetSet) (facet : Facet) :
    (first.union second).contains facet =
      (first.contains facet || second.contains facet) := by
  simp [union]

@[simp] theorem contains_ofList (facets : List Facet) (facet : Facet) :
    (ofList facets).contains facet = facets.contains facet := by
  simp [ofList]

/-- Sets with the same members are equal. -/
@[ext] theorem ext_contains
    {first second : FacetSet}
    (agree : ∀ facet, first.contains facet = second.contains facet) :
    first = second := by
  have sameTable : first.membership = second.membership :=
    FacetTable.ext_get agree
  cases first
  cases second
  simp_all

theorem mem_toList {set : FacetSet} {facet : Facet} :
    facet ∈ set.toList ↔ facet ∈ set := by
  simp [toList, Facet.mem_all, mem_iff]

/-- The subset test decides inclusion. -/
theorem isSubset_iff {first second : FacetSet} :
    first.isSubset second = true ↔
      ∀ facet, facet ∈ first → facet ∈ second := by
  simp only [isSubset, List.all_eq_true, Facet.mem_all, true_implies,
    Bool.or_eq_true, Bool.not_eq_true', mem_iff]
  constructor
  · intro included facet member
    exact (included facet).resolve_left (by simp [member])
  · intro included facet
    cases member : first.contains facet
    · exact Or.inl rfl
    · exact Or.inr (included facet member)

end FacetSet

end LendingRules
