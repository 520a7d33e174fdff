import LendingRules.Policy.Basic

namespace LendingRules

/-!
# One value per policy type

A table holds exactly one value for each of the five policy types, as a rule
holds at most one policy id of each type and a decision one ruling of each.
-/

universe u

/-- One value for each policy type. -/
structure PolicyTable (Value : Type u) where
  loan : Value
  request : Value
  notice : Value
  overdueFine : Value
  lostItemFee : Value
  deriving Repr, DecidableEq

namespace PolicyTable

variable {Value : Type u}

/-- The value a table holds for a policy type. -/
def get (table : PolicyTable Value) : PolicyType → Value
  | .loan => table.loan
  | .request => table.request
  | .notice => table.notice
  | .overdueFine => table.overdueFine
  | .lostItemFee => table.lostItemFee

/-- Tabulate a function of the policy type. -/
def ofFn (value : PolicyType → Value) : PolicyTable Value where
  loan := value .loan
  request := value .request
  notice := value .notice
  overdueFine := value .overdueFine
  lostItemFee := value .lostItemFee

/-- Replace the value for one policy type and keep the others. -/
def set
    (table : PolicyTable Value)
    (type : PolicyType)
    (value : Value) :
    PolicyTable Value :=
  ofFn fun other => if other = type then value else table.get other

/--
Fill a table from a fallible function, asking in the customary order and
stopping at the first failure.
-/
def ofFnM
    {Failure : Type}
    (value : PolicyType → Except Failure Value) :
    Except Failure (PolicyTable Value) := do
  let loan ← value .loan
  let request ← value .request
  let notice ← value .notice
  let overdueFine ← value .overdueFine
  let lostItemFee ← value .lostItemFee
  return { loan, request, notice, overdueFine, lostItemFee }

@[simp] theorem get_ofFn (value : PolicyType → Value) (type : PolicyType) :
    (ofFn value).get type = value type := by
  cases type <;> rfl

/-- After a replacement the table reads as the new value there. -/
theorem get_set
    (table : PolicyTable Value)
    (type other : PolicyType)
    (value : Value) :
    (table.set type value).get other =
      if other = type then value else table.get other := by
  simp [set]

/-- Tables that agree on every policy type are equal. -/
@[ext] theorem ext_get
    {first second : PolicyTable Value}
    (agree : ∀ type, first.get type = second.get type) :
    first = second := by
  have loan := agree .loan
  have request := agree .request
  have notice := agree .notice
  have overdueFine := agree .overdueFine
  have lostItemFee := agree .lostItemFee
  cases first
  cases second
  simp_all [get]

end PolicyTable

end LendingRules
