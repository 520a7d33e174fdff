import LendingRules.Facet.Set

namespace LendingRules

/-!
# Precedence among facets

A precedence puts the seven facets in order. Of two sets of facets the one that
holds the first facet its competitor lacks comes first; this comparison is the
lexicographic one over the facets in precedence order.
-/

/-- The seven facets in some order, each listed once. -/
structure Precedence where
  facets : List Facet
  nodup : facets.Nodup
  complete : ∀ facet ∈ Facet.all, facet ∈ facets
  deriving Repr, DecidableEq

/--
Compare by the first comparison that tells the two apart, trying the
comparisons in order.
-/
def lexicographic
    {Value : Type}
    (comparisons : List (Value → Value → Ordering)) :
    Value → Value → Ordering :=
  comparisons.foldr compareLex fun _ _ => .eq

namespace Precedence

/-- The precedence given by a list, when it holds every facet exactly once. -/
def ofList? (facets : List Facet) : Option Precedence :=
  if permutation : facets.Nodup ∧ ∀ facet ∈ Facet.all, facet ∈ facets then
    some ⟨facets, permutation.1, permutation.2⟩
  else
    none

/-- The customary order of the facets. -/
def customary : Precedence where
  facets := Facet.all
  nodup := Facet.nodup_all
  complete := fun _ member => member

/-- Of the members of a set, the one that comes first in the precedence. -/
def highest? (precedence : Precedence) (set : FacetSet) : Option Facet :=
  precedence.facets.find? set.contains

/-- Put the set that contains the facet before the one that lacks it. -/
def compareAt (facet : Facet) (first second : FacetSet) : Ordering :=
  Ord.compare (second.contains facet) (first.contains facet)

/-- Compare two sets facet by facet, in the order of precedence. -/
def compare (precedence : Precedence) : FacetSet → FacetSet → Ordering :=
  lexicographic (precedence.facets.map compareAt)

/-- The letters in order, separated by commas. -/
def text (precedence : Precedence) : String :=
  ", ".intercalate (precedence.facets.map fun facet => String.singleton facet.letter)

/-- The letters in order, unseparated. -/
def letters (precedence : Precedence) : String :=
  String.ofList (precedence.facets.map Facet.letter)

/-- Every facet has a place in a precedence. -/
theorem mem_facets (precedence : Precedence) (facet : Facet) :
    facet ∈ precedence.facets :=
  precedence.complete facet (Facet.mem_all facet)

/-- A precedence puts the facets in some order. -/
theorem facets_perm (precedence : Precedence) : precedence.facets.Perm Facet.all :=
  (List.perm_ext_iff_of_nodup precedence.nodup Facet.nodup_all).mpr fun facet =>
    iff_of_true (precedence.mem_facets facet) facet.mem_all

/-- A precedence is as long as the list of all facets. -/
theorem length_facets (precedence : Precedence) :
    precedence.facets.length = Facet.all.length :=
  precedence.facets_perm.length_eq

/-- A list is a precedence exactly when it is the facets of that precedence. -/
theorem ofList?_eq_some_iff {facets : List Facet} {precedence : Precedence} :
    ofList? facets = some precedence ↔ precedence.facets = facets := by
  unfold ofList?
  constructor
  · intro made
    split at made
    · cases made
      rfl
    · simp at made
  · rintro rfl
    simp [precedence.nodup, precedence.mem_facets]

end Precedence

end LendingRules
