import LendingRules.Request.Basic

namespace LendingRules

/-!
# Criteria

A criterion constrains one facet: it asks for any id at all, for one of the
listed ids, or for an id outside the list. A facet for which the request has no
id satisfies no criterion, not even a negated one.
-/

/-- What a criterion asks of the id supplied for its facet. -/
inductive IdTest where
  | anyId
  | oneOf (ids : List String)
  | noneOf (ids : List String)
  deriving Repr, DecidableEq

namespace IdTest

/-- Whether a supplied id, or the lack of one, passes the test. -/
def accepts : IdTest → Option String → Bool
  | _, none => false
  | anyId, some _ => true
  | oneOf ids, some id => ids.contains id
  | noneOf ids, some id => !ids.contains id

/-- The words that write the test after the letter of its facet. -/
def words : IdTest → List String
  | anyId => ["all"]
  | oneOf ids => ids
  | noneOf ids => ids.map fun id => "!" ++ id

/-- No test accepts the lack of an id. -/
@[simp] theorem accepts_none (test : IdTest) : test.accepts none = false := by
  cases test <;> rfl

end IdTest

/-- A test on the id of one facet. -/
structure Criterion where
  facet : Facet
  test : IdTest
  deriving Repr, DecidableEq

namespace Criterion

/-- Whether the criterion accepts an id supplied for its facet. -/
def accepts (criterion : Criterion) (id? : Option String) : Bool :=
  criterion.test.accepts id?

/-- Whether a request satisfies the criterion. -/
def holds (criterion : Criterion) (request : Request) : Bool :=
  criterion.accepts (request.get? criterion.facet)

/-- The written form: the letter of the facet, then the words of the test. -/
def text (criterion : Criterion) : String :=
  " ".intercalate (String.singleton criterion.facet.letter :: criterion.test.words)

/-- A satisfied criterion is on a facet that the request supplies. -/
theorem facet_mem_of_holds
    {criterion : Criterion}
    {request : Request}
    (satisfied : criterion.holds request = true) :
    criterion.facet ∈ request.facets := by
  rw [Request.mem_facets]
  cases supplied : request.get? criterion.facet with
  | none => simp [holds, accepts, supplied] at satisfied
  | some id => exact ⟨id, rfl⟩

end Criterion

end LendingRules
