namespace LendingRules

/-!
# Values per tenant

A map holds at most one value for each tenant. It is described by what it holds
for a tenant after each operation; how many tenants it holds is the length of a
list of pairs in which no tenant occurs twice.
-/

universe u

/-- At most one value for each tenant. -/
structure TenantMap (Value : Type u) where
  pairs : List (String × Value)
  nodup : (pairs.map Prod.fst).Nodup
  deriving DecidableEq

namespace TenantMap

variable {Value : Type u}

/-- The map without tenants. -/
def empty : TenantMap Value where
  pairs := []
  nodup := .nil

/-- The value held for a tenant. -/
def get? (map : TenantMap Value) (tenant : String) : Option Value :=
  map.pairs.lookup tenant

/-- Whether a value is held for a tenant. -/
def contains (map : TenantMap Value) (tenant : String) : Bool :=
  (map.get? tenant).isSome

/-- The number of tenants. -/
def size (map : TenantMap Value) : Nat :=
  map.pairs.length

/-- Whether no value is held. -/
def isEmpty (map : TenantMap Value) : Bool :=
  map.pairs.isEmpty

/-- The tenants in the order of their names. -/
def tenants (map : TenantMap Value) : List String :=
  (map.pairs.map Prod.fst).mergeSort fun first second => first ≤ second

/-- Hold no value for a tenant. -/
def erase (map : TenantMap Value) (tenant : String) : TenantMap Value where
  pairs := map.pairs.filter fun pair => pair.1 ≠ tenant
  nodup := map.nodup.sublist (List.filter_sublist.map Prod.fst)

/-- Hold a value for a tenant, replacing an earlier one. -/
def insert (map : TenantMap Value) (tenant : String) (value : Value) : TenantMap Value where
  pairs := (tenant, value) :: (map.erase tenant).pairs
  nodup := by
    rw [List.map_cons, List.nodup_cons]
    exact ⟨by simp [erase], (map.erase tenant).nodup⟩

/-- Insert pairs one after the other. -/
def ofPairs (pairs : List (String × Value)) : TenantMap Value :=
  pairs.foldl (fun map pair => map.insert pair.1 pair.2) empty

@[simp] theorem get?_empty (tenant : String) :
    (empty : TenantMap Value).get? tenant = none :=
  rfl

theorem lookup_cons_eq_ite
    (name tenant : String)
    (value : Value)
    (rest : List (String × Value)) :
    List.lookup name ((tenant, value) :: rest) =
      if name = tenant then some value else rest.lookup name := by
  by_cases same : name = tenant
  · simp [same]
  · simp [List.lookup_cons, same, beq_false_of_ne same]

/-- An erased tenant is gone and the others stay. -/
theorem get?_erase (map : TenantMap Value) (tenant other : String) :
    (map.erase tenant).get? other =
      if other = tenant then none else map.get? other := by
  simp only [get?, erase]
  induction map.pairs with
  | nil => simp
  | cons pair rest inductionHypothesis =>
      obtain ⟨name, value⟩ := pair
      by_cases removed : name = tenant
      · subst removed
        by_cases asked : other = name
        · simpa [asked] using inductionHypothesis
        · simpa [lookup_cons_eq_ite, asked] using inductionHypothesis
      · by_cases same : other = name
        · subst same
          simp [removed]
        · simpa [lookup_cons_eq_ite, removed, same] using inductionHypothesis

/-- An inserted value is found for its tenant and the others stay. -/
theorem get?_insert
    (map : TenantMap Value)
    (tenant other : String)
    (value : Value) :
    (map.insert tenant value).get? other =
      if other = tenant then some value else map.get? other := by
  have erased := map.get?_erase tenant other
  simp only [get?, insert, lookup_cons_eq_ite] at *
  by_cases same : other = tenant
  · simp [same]
  · simp only [same, ↓reduceIte] at *
    exact erased

/-- An inserted value is found for its tenant. -/
@[simp] theorem get?_insert_self
    (map : TenantMap Value)
    (tenant : String)
    (value : Value) :
    (map.insert tenant value).get? tenant = some value := by
  simp [get?_insert]

end TenantMap

end LendingRules
