import LendingRules.Error
import LendingRules.Tenant.Map

namespace LendingRules

/-!
# Stored rule text

The store keeps the rule text of each tenant as it was given. During an outage
it can neither be read nor written; every attempt to read is counted.
-/

/-- The rule texts of all tenants. -/
structure TextStore where
  texts : TenantMap String
  outage? : Option String
  loads : Nat
  deriving DecidableEq

namespace TextStore

/-- A store with the given texts that nobody has read from. -/
def ofPairs (pairs : List (String × String)) : TextStore where
  texts := .ofPairs pairs
  outage? := none
  loads := 0

/-- What reading the text of a tenant gives. -/
def text (store : TextStore) (tenant : String) : Except SourceError String :=
  match store.outage? with
  | some reason => .error (.unavailable reason)
  | none =>
      match store.texts.get? tenant with
      | some text => .ok text
      | none => .error (.notFound tenant)

/-- Read the text of a tenant, which counts as a load. -/
def load (store : TextStore) (tenant : String) : Except SourceError String × TextStore :=
  (store.text tenant, { store with loads := store.loads + 1 })

/-- Replace the text of a tenant. -/
def save
    (store : TextStore)
    (tenant text : String) :
    Except SourceError TextStore :=
  match store.outage? with
  | some reason => .error (.unavailable reason)
  | none => .ok { store with texts := store.texts.insert tenant text }

/-- What was saved is what is read. -/
theorem text_of_save
    {store saved : TextStore}
    {tenant text : String}
    (success : store.save tenant text = .ok saved)
    (other : String) :
    saved.text other = if other = tenant then .ok text else store.text other := by
  unfold save at success
  split at success
  · simp at success
  · rename_i available
    cases success
    by_cases same : other = tenant
    · simp [TextStore.text, available, same]
    · simp [TextStore.text, available, TenantMap.get?_insert, same]

end TextStore

end LendingRules
