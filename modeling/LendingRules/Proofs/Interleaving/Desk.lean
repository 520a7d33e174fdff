import LendingRules.Proofs.Interleaving.StoredText

namespace LendingRules

/-!
# One caller at a time

A desk serves its callers one after the other: every operation is carried out in
one go. A background refresh waits until its time has come, then it is carried
out in one go too, or it turns out that it cannot be started. What a get answers
and what is cached after it comes from the cache, or from the one text that a
reload reads.
-/

/-- Carry an operation out in one go, with the refresh that has to be run for it. -/
def Operation.inOneGo (service : Service) : Operation → Option Reload × Service
  | get tenant => (service.rulebook tenant).2
  | readText tenant => (none, (service.load tenant).2)
  | save tenant text => (none, (service.saveText tenant text).toOption.getD service)
  | replaceText tenant text invalidates =>
      (none, (service.replaceText tenant text invalidates).2)
  | invalidate tenant => (none, service.withCache (·.invalidate tenant))
  | dropAll => (none, service.withCache Cache.dropAll)
  | setLifetimes lifetimes => (none, service.withCache (·.setLifetimes lifetimes))

/-- A service and the refreshes that wait to be run, oldest first. -/
structure Desk where
  service : Service
  waiting : List Reload

/--
What happens at a desk: an operation, a refresh that is run or given up, or a
change outside. Refreshes are told by their place among those that wait.
-/
inductive Turn where
  | operate (operation : Operation)
  | refresh (place : Nat)
  | abandon (place : Nat)
  | advance (span : Span)
  | setOutage (outage? : Option String)
  deriving Repr, DecidableEq

namespace Desk

/-- A desk at which nothing has happened and nothing is cached. -/
def start (lifetimes : Lifetimes) (texts : List (String × String)) : Desk where
  service := .start lifetimes texts
  waiting := []

/-- Let one thing happen. -/
def step (desk : Desk) : Turn → Desk
  | .operate operation =>
      let (refresh?, service) := operation.inOneGo desk.service
      { service, waiting := desk.waiting ++ refresh?.toList }
  | .refresh place =>
      match desk.waiting[place]? with
      | none => desk
      | some reload =>
          { service := desk.service.refresh reload
            waiting := desk.waiting.eraseIdx place }
  | .abandon place =>
      match desk.waiting[place]? with
      | none => desk
      | some reload =>
          { service := reload.existing?.elim desk.service fun existing =>
              desk.service.withCache (·.unclaimRefresh existing.serial)
            waiting := desk.waiting.eraseIdx place }
  | .advance span => { desk with service := desk.service.advance span }
  | .setOutage outage? => { desk with service := desk.service.setOutage outage? }

/-- Let one thing happen after the other. -/
def run (desk : Desk) (turns : List Turn) : Desk :=
  turns.foldl step desk

@[simp] theorem run_nil (desk : Desk) : desk.run [] = desk :=
  rfl

@[simp] theorem run_concat (desk : Desk) (turns : List Turn) (turn : Turn) :
    desk.run (turns ++ [turn]) = (desk.run turns).step turn := by
  simp [run]

end Desk

/--
What a reload may find for the text it reads: a rulebook with the digest of that
text, compiled from it or the one that was cached.
-/
def Reload.Finds (reload : Reload) (text : String) (rulebook : Rulebook) : Prop :=
  rulebook.digest = Digest.ofText text ∧
    (Rulebook.ofText text = .ok rulebook ∨
      ∃ existing ∈ reload.existing?, existing.rulebook = rulebook)

namespace Cache

/-- What a reload finds is for the text it reads. -/
theorem finds_of_resolve
    {cache resolved : Cache}
    {reload : Reload}
    {text : String}
    {rulebook : Rulebook}
    (found : cache.resolve reload text = (.ok rulebook, resolved)) :
    reload.Finds text rulebook ∧ resolved.cached = cache.cached := by
  rcases cache.resolve_cases reload text with
    ⟨existing, present, same, kept⟩ | ⟨compiledRulebook, compiled, made⟩ | ⟨error, -, failed⟩
  · rw [kept] at found
    cases found
    exact ⟨⟨same, .inr ⟨existing, present, rfl⟩⟩, rfl⟩
  · rw [made] at found
    cases found
    exact ⟨⟨Rulebook.digest_of_ofText compiled, .inl compiled⟩, rfl⟩
  · rw [failed] at found
    cases found

/-- A reload that finds nothing leaves the cache as it is. -/
theorem eq_of_resolve_error
    {cache resolved : Cache}
    {reload : Reload}
    {text : String}
    {error : LendingError}
    (failed : cache.resolve reload text = (.error error, resolved)) :
    resolved = cache := by
  rcases cache.resolve_cases reload text with
    ⟨_, _, _, kept⟩ | ⟨_, _, made⟩ | ⟨_, _, unchanged⟩
  · rw [kept] at failed
    cases failed
  · rw [made] at failed
    cases failed
  · rw [unchanged] at failed
    cases failed
    rfl

/-- An entry after an install was there before, or it is the installed one. -/
theorem get?_cached_of_install
    {cache : Cache}
    {reload : Reload}
    {rulebook : Rulebook}
    {now : Nat}
    {tenant : String}
    {cached : CachedRulebook}
    (present : (cache.install reload rulebook now).cached.get? tenant = some cached) :
    cache.cached.get? tenant = some cached ∨
      tenant = reload.tenant ∧ cached.rulebook = rulebook ∧ cached.loadedAt = now := by
  unfold install at present
  split at present
  · rw [TenantMap.get?_insert] at present
    split at present
    · rename_i sameTenant
      cases present
      exact .inr ⟨sameTenant, rfl, rfl⟩
    · exact .inl present
  · exact .inl present

end Cache

namespace Service

/--
A reload in one go. It takes no time and writes no text. What it finds is for the
stored text, and nothing else is new in the cache.
-/
structure Reloads
    (service : Service)
    (reload : Reload)
    (result : Except LendingError Rulebook)
    (after : Service) : Prop where
  now : after.now = service.now
  texts : after.store.texts = service.store.texts
  finds :
    ∀ rulebook, result = .ok rulebook →
      ∃ text,
        service.store.texts.get? reload.tenant = some text ∧ reload.Finds text rulebook
  cached :
    ∀ tenant cached, after.cache.cached.get? tenant = some cached →
      service.cache.cached.get? tenant = some cached ∨
        tenant = reload.tenant ∧ result = .ok cached.rulebook ∧
          cached.loadedAt = service.now

/-- To load and to complete at once is a reload in one go. -/
theorem reloads (service : Service) (reload : Reload) :
    service.Reloads reload
      ((service.load reload.tenant).2.complete reload (service.load reload.tenant).1).1
      ((service.load reload.tenant).2.complete reload (service.load reload.tenant).1).2 := by
  simp only [load, TextStore.load, complete]
  cases loaded : service.store.text reload.tenant with
  | error error =>
      exact ⟨rfl, rfl, by simp, fun tenant cached present => .inl present⟩
  | ok text =>
      simp only [Cache.complete]
      rcases resolved : service.cache.resolve reload text with ⟨result, cache⟩
      cases result with
      | error error =>
          cases Cache.eq_of_resolve_error resolved
          exact ⟨rfl, rfl, by simp, fun tenant cached present => .inl present⟩
      | ok rulebook =>
          obtain ⟨finds, sameEntries⟩ := Cache.finds_of_resolve resolved
          refine ⟨rfl, rfl, ?_, ?_⟩
          · intro obtained same
            cases same
            exact ⟨text, TextStore.get?_of_text loaded, finds⟩
          · intro tenant cached present
            rcases Cache.get?_cached_of_install present with before | ⟨same, rfl, time⟩
            · exact .inl (sameEntries ▸ before)
            · exact .inr ⟨same, rfl, time⟩

/--
A get is served from the cache with what has not expired, perhaps with a refresh
of it, or it is a reload in one go.
-/
theorem rulebook_cases (service : Service) (tenant : String) :
    (∃ existing refresh? cache,
      service.cache.cached.get? tenant = some existing ∧
        existing.freshness service.cache.lifetimes service.now ≠ .expired ∧
          (∀ reload ∈ refresh?, reload = service.cache.observe tenant) ∧
            cache.cached = service.cache.cached ∧
              service.rulebook tenant =
                (.ok existing.rulebook, refresh?, { service with cache })) ∨
      ∃ result after,
        service.rulebook tenant = (result, none, after) ∧
          service.Reloads (service.cache.observe tenant) result after := by
  simp only [rulebook, access, lookup, Cache.lookup]
  rcases service.cache.proceed_cases service.cache.lifetimes service.now
      (service.cache.observe tenant) with
    ⟨existing, found, unexpired, served⟩ | ⟨existing, found, stale, -, refreshing⟩ |
      ⟨-, reloading⟩
  · rw [served]
    exact .inl
      ⟨existing, none, service.cache.countHit, found, unexpired, by simp, rfl, rfl⟩
  · rw [refreshing]
    have unexpired : existing.freshness service.cache.lifetimes service.now ≠ .expired := by
      simp [stale]
    exact .inl
      ⟨existing, some (service.cache.observe tenant),
        service.cache.countHit.claimRefresh existing.serial, found, unexpired, by simp, rfl, rfl⟩
  · rw [reloading]
    have counted :=
      ({ service with cache := service.cache.countMiss } : Service).reloads
        (service.cache.observe tenant)
    exact .inr ⟨_, _, rfl, counted.now, counted.texts, counted.finds, counted.cached⟩

end Service

end LendingRules
