import LendingRules.Cache.Lifetimes
import LendingRules.Rulebook.OfText
import LendingRules.Tenant.Map

namespace LendingRules

/-!
# The rulebook cache

The cache holds one compiled rulebook per tenant. A get first looks the entry
up together with the generation of its tenant; a reload that follows takes both
along, and installs its result only if the generation is still the same, so that
nothing read before an invalidation is kept after it. Each installed rulebook
has a number of its own and is refreshed in the background at most once.
-/

/-- A rulebook in the cache: when it was loaded, and the number it was given. -/
structure CachedRulebook where
  rulebook : Rulebook
  loadedAt : Nat
  serial : Nat
  deriving Repr, DecidableEq

/-- How far a cached rulebook is through its lifetimes. -/
inductive Freshness where
  | fresh
  | stale
  | expired
  deriving Repr, DecidableEq

namespace CachedRulebook

/-- The time since the rulebook was loaded. -/
def age (cached : CachedRulebook) (now : Nat) : Span :=
  now - cached.loadedAt

/-- How far the rulebook is through its lifetimes; expiry counts first. -/
def freshness (cached : CachedRulebook) (lifetimes : Lifetimes) (now : Nat) : Freshness :=
  if lifetimes.expiryAge ≤ cached.age now then
    .expired
  else if lifetimes.refreshAge ≤ cached.age now then
    .stale
  else
    .fresh

end CachedRulebook

/-- What changes whenever the entry of a tenant is made invalid. -/
structure Generation where
  drops : Nat
  invalidations : Nat
  deriving Repr, DecidableEq

/-- What a reload takes along from its lookup. -/
structure Reload where
  tenant : String
  existing? : Option CachedRulebook
  generation : Generation
  deriving Repr, DecidableEq

/-- How often what has happened since the cache was created. -/
structure CacheCounts where
  hits : Nat := 0
  misses : Nat := 0
  recompiles : Nat := 0
  revalidations : Nat := 0
  refreshes : Nat := 0
  deriving Repr, DecidableEq

/--
Cached rulebooks with all that is known about their tenants. The serials of the
rulebooks that have used up their one refresh are kept.
-/
structure Cache where
  lifetimes : Lifetimes
  cached : TenantMap CachedRulebook
  invalidations : TenantMap Nat
  drops : Nat
  counts : CacheCounts
  installs : Nat
  refreshed : List Nat
  deriving DecidableEq

/-- What a get does after its lookup. -/
inductive Lookup where
  | served (rulebook : Rulebook)
  | refreshing (rulebook : Rulebook) (reload : Reload)
  | reloading (reload : Reload)
  deriving Repr, DecidableEq

namespace Cache

/-- The cache before anything has happened. -/
def empty (lifetimes : Lifetimes) : Cache where
  lifetimes
  cached := .empty
  invalidations := .empty
  drops := 0
  counts := {}
  installs := 0
  refreshed := []

/-- The number of background refreshes started. -/
def refreshes (cache : Cache) : Nat :=
  cache.counts.refreshes

/-- The number of tenants with a cached rulebook. -/
def size (cache : Cache) : Nat :=
  cache.cached.size

/-- Whether nothing is cached. -/
def isEmpty (cache : Cache) : Bool :=
  cache.cached.isEmpty

/-- Whether a rulebook is cached for a tenant. -/
def contains (cache : Cache) (tenant : String) : Bool :=
  cache.cached.contains tenant

/-- The generation of a tenant. -/
def generation (cache : Cache) (tenant : String) : Generation where
  drops := cache.drops
  invalidations := (cache.invalidations.get? tenant).getD 0

/-- Look up the entry and the generation of a tenant. -/
def observe (cache : Cache) (tenant : String) : Reload where
  tenant
  existing? := cache.cached.get? tenant
  generation := cache.generation tenant

/-- Count a get that was served from the cache. -/
def countHit (cache : Cache) : Cache :=
  { cache with counts.hits := cache.counts.hits + 1 }

/-- Count a get that has to load before it is served. -/
def countMiss (cache : Cache) : Cache :=
  { cache with counts.misses := cache.counts.misses + 1 }

/-- Use up the one refresh of a rulebook. -/
def claimRefresh (cache : Cache) (serial : Nat) : Cache :=
  { cache with
    counts.refreshes := cache.counts.refreshes + 1
    refreshed := serial :: cache.refreshed }

/-- Give the refresh of a rulebook back, since it could not be started. -/
def unclaimRefresh (cache : Cache) (serial : Nat) : Cache :=
  { cache with refreshed := cache.refreshed.filter (· ≠ serial) }

/--
Decide how a get goes on from what it looked up: a fresh rulebook is served, a
stale one is served and gets its one refresh, and otherwise there is a reload.
-/
def proceed
    (cache : Cache)
    (lifetimes : Lifetimes)
    (now : Nat)
    (observed : Reload) :
    Lookup × Cache :=
  match observed.existing? with
  | none => (.reloading observed, cache.countMiss)
  | some existing =>
      match existing.freshness lifetimes now with
      | .expired => (.reloading observed, cache.countMiss)
      | .fresh => (.served existing.rulebook, cache.countHit)
      | .stale =>
          if existing.serial ∈ cache.refreshed then
            (.served existing.rulebook, cache.countHit)
          else
            (.refreshing existing.rulebook observed,
              cache.countHit.claimRefresh existing.serial)

/-- Look a tenant up and decide how the get goes on. -/
def lookup (cache : Cache) (now : Nat) (tenant : String) : Lookup × Cache :=
  cache.proceed cache.lifetimes now (cache.observe tenant)

/-- Install a rulebook unless its tenant was invalidated since the lookup. -/
def install (cache : Cache) (reload : Reload) (rulebook : Rulebook) (now : Nat) : Cache :=
  if cache.generation reload.tenant = reload.generation then
    { cache with
      cached :=
        cache.cached.insert reload.tenant
          { rulebook, loadedAt := now, serial := cache.installs }
      installs := cache.installs + 1 }
  else
    cache

/--
Find the rulebook of the text that a reload has read. The existing rulebook is
kept when the digest of the text is still the same; otherwise the text is
compiled, which may fail.
-/
def resolve
    (cache : Cache)
    (reload : Reload)
    (text : String) :
    Except LendingError Rulebook × Cache :=
  match reload.existing?.filter fun existing =>
      existing.rulebook.digest = Digest.ofText text with
  | some existing =>
      (.ok existing.rulebook,
        { cache with counts.revalidations := cache.counts.revalidations + 1 })
  | none =>
      match Rulebook.ofText text with
      | .error error => (.error error, cache)
      | .ok rulebook =>
          (.ok rulebook,
            { cache with counts.recompiles := cache.counts.recompiles + 1 })

/--
Complete a reload with the text that was read. The rulebook found is returned
whether or not it is installed.
-/
def complete
    (cache : Cache)
    (reload : Reload)
    (text : String)
    (now : Nat) :
    Except LendingError Rulebook × Cache :=
  match cache.resolve reload text with
  | (.error error, counted) => (.error error, counted)
  | (.ok rulebook, counted) => (.ok rulebook, counted.install reload rulebook now)

/-- Remove the entry of a tenant and begin a new generation for it. -/
def invalidate (cache : Cache) (tenant : String) : Cache :=
  { cache with
    cached := cache.cached.erase tenant
    invalidations :=
      cache.invalidations.insert tenant ((cache.invalidations.get? tenant).getD 0 + 1) }

/-- Remove every entry and begin a new generation for every tenant. -/
def dropAll (cache : Cache) : Cache :=
  { cache with
    cached := .empty
    invalidations := .empty
    drops := cache.drops + 1 }

/-- Judge entries by other lifetimes from the next get on. -/
def setLifetimes (cache : Cache) (lifetimes : Lifetimes) : Cache :=
  { cache with lifetimes }

/-- The cache as shown to people who debug it. -/
def text (cache : Cache) : String :=
  "RulesCache \x7b entries: " ++ toString cache.size ++
    ", settings: CacheSettings \x7b set_ttl_ms: " ++
    toString cache.lifetimes.expiry ++ ", fetch_ttl_ms: " ++
    toString cache.lifetimes.refresh ++ " \x7d, .. \x7d"

/-- An invalidation changes the generation of its tenant and of no other. -/
theorem generation_invalidate (cache : Cache) (tenant other : String) :
    (cache.invalidate tenant).generation other =
      if other = tenant then
        { cache.generation tenant with
          invalidations := (cache.generation tenant).invalidations + 1 }
      else
        cache.generation other := by
  by_cases same : other = tenant
  · simp [invalidate, generation, same]
  · simp [invalidate, generation, TenantMap.get?_insert, same]

/-- Nothing is cached for a tenant right after its invalidation. -/
theorem get?_cached_invalidate (cache : Cache) (tenant other : String) :
    (cache.invalidate tenant).cached.get? other =
      if other = tenant then none else cache.cached.get? other := by
  simp [invalidate, TenantMap.get?_erase]

/-- Installing leaves every generation as it is. -/
@[simp] theorem generation_install
    (cache : Cache)
    (reload : Reload)
    (rulebook : Rulebook)
    (now : Nat)
    (tenant : String) :
    (cache.install reload rulebook now).generation tenant = cache.generation tenant := by
  unfold install
  split <;> rfl

end Cache

end LendingRules
