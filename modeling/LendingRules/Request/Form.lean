import LendingRules.Request.Basic
import LendingRules.Request.Uuid

namespace LendingRules

/-!
# Request forms

A form holds the parameters of a request as callers send them, before anything
is checked. Validation asks for the four required ids and for the form of every
id that is present, and reports every problem in one go.
-/

namespace Facet

/-- The name of the request parameter for a facet. -/
def parameter : Facet → String
  | materialType => "item_type_id"
  | loanType => "loan_type_id"
  | patronGroup => "patron_type_id"
  | shelvingLocation => "location_id"
  | library => "library_id"
  | campus => "campus_id"
  | institution => "institution_id"

/-- The facet that a request parameter is for. -/
def ofParameter? (name : String) : Option Facet :=
  all.find? fun facet => facet.parameter = name

/-- Whether every request has to supply an id for the facet. -/
def isRequired : Facet → Bool
  | materialType | loanType | patronGroup | shelvingLocation => true
  | library | campus | institution => false

/-- The facets in the order in which their parameters are checked. -/
def checkingOrder : List Facet :=
  [materialType, loanType, patronGroup, shelvingLocation, library, campus,
    institution]

/-- A parameter name is read back as its facet. -/
@[simp] theorem ofParameter?_parameter (facet : Facet) :
    ofParameter? facet.parameter = some facet := by
  cases facet <;> decide

end Facet

/-- One problem with one parameter of a request. -/
inductive FormProblem where
  | missing (facet : Facet)
  | malformed (facet : Facet) (value : String)
  deriving Repr, DecidableEq

namespace FormProblem

/-- The parameter that the problem is about. -/
def facet : FormProblem → Facet
  | missing facet => facet
  | malformed facet _ => facet

/-- The problem as told to the caller. -/
def message : FormProblem → String
  | missing facet => "required query parameter missing: " ++ facet.parameter
  | malformed facet value =>
      "invalid uuid format of " ++ facet.parameter ++ ", expecting " ++
        Uuid.pattern ++ " but it is " ++ value

end FormProblem

/-- Unchecked request parameters: a value or none for each facet. -/
structure RequestForm where
  values : FacetTable (Option String)
  deriving Repr, DecidableEq

namespace RequestForm

/-- The form on which nothing is filled in. -/
def empty : RequestForm :=
  ⟨.ofFn fun _ => none⟩

/-- The value filled in for a facet. -/
def get? (form : RequestForm) (facet : Facet) : Option String :=
  form.values.get facet

/-- Fill in a parameter by its name; unknown names change nothing. -/
def fill (form : RequestForm) (name value : String) : RequestForm :=
  match Facet.ofParameter? name with
  | some facet => ⟨form.values.set facet (some value)⟩
  | none => form

/-- Fill in parameters one after the other, so that the last value counts. -/
def fillAll (form : RequestForm) (pairs : List (String × String)) : RequestForm :=
  pairs.foldl (fun form pair => form.fill pair.1 pair.2) form

/-- The form filled in from pairs of name and value. -/
def ofPairs (pairs : List (String × String)) : RequestForm :=
  empty.fillAll pairs

/-- What is wrong with the parameter for a facet. -/
def problem? (form : RequestForm) (facet : Facet) : Option FormProblem :=
  match form.get? facet with
  | none => if facet.isRequired then some (.missing facet) else none
  | some value =>
      if Uuid.isAccepted value then none else some (.malformed facet value)

/-- Every problem of the form, in checking order. -/
def problems (form : RequestForm) : List FormProblem :=
  Facet.checkingOrder.filterMap form.problem?

/-- The request on the form, or else every problem with it. -/
def validate (form : RequestForm) : Except (List FormProblem) Request :=
  match form.get? .materialType, form.get? .loanType, form.get? .patronGroup,
      form.get? .shelvingLocation, form.problems with
  | some materialType, some loanType, some patronGroup, some shelvingLocation,
      [] =>
      .ok
        { materialType
          loanType
          patronGroup
          shelvingLocation
          library := form.get? .library
          campus := form.get? .campus
          institution := form.get? .institution }
  | _, _, _, _, problems => .error problems

@[simp] theorem get?_empty (facet : Facet) : empty.get? facet = none := by
  simp [empty, get?]

/-- Filling in a known parameter changes the value of its facet only. -/
theorem get?_fill_parameter
    (form : RequestForm)
    (facet other : Facet)
    (value : String) :
    (form.fill facet.parameter value).get? other =
      if other = facet then some value else form.get? other := by
  simp [fill, get?, FacetTable.get_set]

end RequestForm

end LendingRules
