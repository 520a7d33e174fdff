import LendingRules.Facet.Basic

namespace LendingRules

/-!
# One value per facet

A table holds exactly one value for each of the seven facets. Reading a table
built from a function gives the function back, so a table may be treated as the
function it tabulates.
-/

universe u

/-- One value for each facet. -/
structure FacetTable (Value : Type u) where
  loanType : Value
  shelvingLocation : Value
  library : Value
  campus : Value
  institution : Value
  materialType : Value
  patronGroup : Value
  deriving Repr, DecidableEq

namespace FacetTable

variable {Value : Type u}

/-- The value a table holds for a facet. -/
def get (table : FacetTable Value) : Facet → Value
  | .loanType => table.loanType
  | .shelvingLocation => table.shelvingLocation
  | .library => table.library
  | .campus => table.campus
  | .institution => table.institution
  | .materialType => table.materialType
  | .patronGroup => table.patronGroup

/-- Tabulate a function of the facet. -/
def ofFn (value : Facet → Value) : FacetTable Value where
  loanType := value .loanType
  shelvingLocation := value .shelvingLocation
  library := value .library
  campus := value .campus
  institution := value .institution
  materialType := value .materialType
  patronGroup := value .patronGroup

/-- Replace the value for one facet and keep the others. -/
def set
    (table : FacetTable Value)
    (facet : Facet)
    (value : Value) :
    FacetTable Value :=
  ofFn fun other => if other = facet then value else table.get other

@[simp] theorem get_ofFn (value : Facet → Value) (facet : Facet) :
    (ofFn value).get facet = value facet := by
  cases facet <;> rfl

/-- After a replacement the table reads as the new value there. -/
theorem get_set
    (table : FacetTable Value)
    (facet other : Facet)
    (value : Value) :
    (table.set facet value).get other =
      if other = facet then value else table.get other := by
  simp [set]

/-- Tables that agree on every facet are equal. -/
@[ext] theorem ext_get
    {first second : FacetTable Value}
    (agree : ∀ facet, first.get facet = second.get facet) :
    first = second := by
  have loanType := agree .loanType
  have shelvingLocation := agree .shelvingLocation
  have library := agree .library
  have campus := agree .campus
  have institution := agree .institution
  have materialType := agree .materialType
  have patronGroup := agree .patronGroup
  cases first
  cases second
  simp_all [get]

end FacetTable

end LendingRules
