import LendingRules.Facet.Set

namespace LendingRules

/-!
# Lending requests

A request names what is to be lent to whom: an id for the material type, the
loan type, the patron group and the shelving location, and for those of the
library, campus and institution above the location that the caller knows.
-/

/-- The ids that rules are matched against. -/
structure Request where
  materialType : String
  loanType : String
  patronGroup : String
  shelvingLocation : String
  library : Option String := none
  campus : Option String := none
  institution : Option String := none
  deriving Repr, DecidableEq

namespace Request

/-- The id that the request supplies for a facet. -/
def get? (request : Request) : Facet → Option String
  | .loanType => some request.loanType
  | .shelvingLocation => some request.shelvingLocation
  | .library => request.library
  | .campus => request.campus
  | .institution => request.institution
  | .materialType => some request.materialType
  | .patronGroup => some request.patronGroup

/-- The facets for which the request supplies an id. -/
def facets (request : Request) : FacetSet :=
  .ofPredicate fun facet => (request.get? facet).isSome

/-- A facet is supplied exactly when the request has an id for it. -/
theorem mem_facets {request : Request} {facet : Facet} :
    facet ∈ request.facets ↔ ∃ id, request.get? facet = some id := by
  simp [FacetSet.mem_iff, facets, Option.isSome_iff_exists]

end Request

end LendingRules
