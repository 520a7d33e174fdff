import LendingRules.Policy.Table

namespace LendingRules

/-!
# Assigned policies

The policies of one rule: for each type at most one policy id. Assigning a type
again replaces its id, and the written form lists the types in their customary
order whatever the order of assignment.
-/

/-- At most one policy id of each type. -/
structure Policies where
  ids : PolicyTable (Option String)
  deriving Repr, DecidableEq

namespace Policies

/-- No policy of any type. -/
def none : Policies :=
  ⟨.ofFn fun _ => .none⟩

/-- The policy id assigned for a type. -/
def get? (policies : Policies) (type : PolicyType) : Option String :=
  policies.ids.get type

/-- Whether a policy of the type is assigned. -/
def assigns (policies : Policies) (type : PolicyType) : Bool :=
  (policies.get? type).isSome

/-- Assign a policy id, replacing an earlier one of the same type. -/
def assign (policies : Policies) (type : PolicyType) (id : String) : Policies :=
  ⟨policies.ids.set type (some id)⟩

/-- Make assignments one after the other. -/
def ofPairs (pairs : List (PolicyType × String)) : Policies :=
  pairs.foldl (fun policies pair => policies.assign pair.1 pair.2) none

/-- The types that have a policy, in the customary order. -/
def types (policies : Policies) : List PolicyType :=
  PolicyType.all.filter policies.assigns

/-- The assigned types with their policy ids, in the customary order. -/
def toList (policies : Policies) : List (PolicyType × String) :=
  PolicyType.all.filterMap fun type =>
    (policies.get? type).map fun id => (type, id)

/-- Whether no policy is assigned. -/
def isEmpty (policies : Policies) : Bool :=
  policies.toList.isEmpty

/-- The written form: each letter followed by its policy id. -/
def text (policies : Policies) : String :=
  " ".intercalate <| policies.toList.map fun (type, id) =>
    String.singleton type.letter ++ " " ++ id

@[simp] theorem get?_none (type : PolicyType) : none.get? type = .none := by
  simp [none, get?]

/-- After an assignment only the id of that type differs. -/
theorem get?_assign
    (policies : Policies)
    (type other : PolicyType)
    (id : String) :
    (policies.assign type id).get? other =
      if other = type then some id else policies.get? other := by
  simp [assign, get?, PolicyTable.get_set]

/-- Policies that agree on every type are equal. -/
@[ext] theorem ext_get?
    {first second : Policies}
    (agree : ∀ type, first.get? type = second.get? type) :
    first = second := by
  have sameTable : first.ids = second.ids := PolicyTable.ext_get agree
  cases first
  cases second
  simp_all

theorem mem_types {policies : Policies} {type : PolicyType} :
    type ∈ policies.types ↔ policies.assigns type = true := by
  simp [types, PolicyType.mem_all]

theorem mem_toList
    {policies : Policies}
    {type : PolicyType}
    {id : String} :
    (type, id) ∈ policies.toList ↔ policies.get? type = some id := by
  simp [toList, PolicyType.mem_all]

end Policies

end LendingRules
