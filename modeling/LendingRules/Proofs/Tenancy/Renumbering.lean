import LendingRules.Proofs.Tenancy.Confinement

namespace LendingRules

/-!
# The same service under other numbers

Two services look alike to a tenant when they have the same time, lifetimes and
stored text for it, and the same entry and reloads under way but for the serials,
which a renumbering takes from one to the other. The service functions treat the
tenant alike in both, and the renumbering is extended whenever both install a
rulebook for it.
-/

/-- The same rulebook under the number it has elsewhere. -/
def CachedRulebook.renumber
    (numbers : Nat → Nat)
    (cached : CachedRulebook) : CachedRulebook :=
  { cached with serial := numbers cached.serial }

/-- The same reload under the numbers used elsewhere. -/
def Reload.renumber (numbers : Nat → Nat) (reload : Reload) : Reload :=
  { reload with existing? := reload.existing?.map (·.renumber numbers) }

@[simp] theorem Reload.tenant_renumber (numbers : Nat → Nat) (reload : Reload) :
    (reload.renumber numbers).tenant = reload.tenant :=
  rfl

/-- The same reload under way under the numbers used elsewhere. -/
def PendingReload.renumber (numbers : Nat → Nat) (pending : PendingReload) : PendingReload :=
  { pending with reload := pending.reload.renumber numbers }

/-- The same outcome of a lookup under the numbers used elsewhere. -/
def Lookup.renumber (numbers : Nat → Nat) : Lookup → Lookup
  | served rulebook => served rulebook
  | refreshing rulebook reload => refreshing rulebook (reload.renumber numbers)
  | reloading reload => reloading (reload.renumber numbers)

/-- What a tenant sees of one service is what it sees of another, under other numbers. -/
structure Service.Mirrors
    (tenant : String)
    (numbers : Nat → Nat)
    (full : Service)
    (reloads : List PendingReload)
    (part : Service)
    (reloadsPart : List PendingReload) : Prop where
  now : part.now = full.now
  outage : part.store.outage? = full.store.outage?
  text : part.store.texts.get? tenant = full.store.texts.get? tenant
  lifetimes : part.cache.lifetimes = full.cache.lifetimes
  generation : part.cache.generation tenant = full.cache.generation tenant
  cached :
    part.cache.cached.get? tenant =
      (full.cache.cached.get? tenant).map (·.renumber numbers)
  underWay : reloadsPart = reloads.map (·.renumber numbers)
  distinct :
    ∀ serial other, full.Holds tenant reloads serial → full.Holds tenant reloads other →
      numbers serial = numbers other → serial = other
  refreshed :
    ∀ serial, full.Holds tenant reloads serial →
      (numbers serial ∈ part.cache.refreshed ↔ serial ∈ full.cache.refreshed)

namespace Service

variable
  {tenant : String}
  {numbers : Nat → Nat}
  {full part : Service}
  {reloads reloadsPart : List PendingReload}

/-- A rulebook is as fresh under one number as under another. -/
@[simp] theorem freshness_renumber
    (cached : CachedRulebook)
    (lifetimes : Lifetimes)
    (now : Nat) :
    (cached.renumber numbers).freshness lifetimes now = cached.freshness lifetimes now :=
  rfl

namespace Mirrors

/-- The services mirror each other with other reloads under way, if no serial is new. -/
theorem of_reloads
    (mirrors : full.Mirrors tenant numbers reloads part reloadsPart)
    {reloads' : List PendingReload}
    (held :
      ∀ serial, full.Holds tenant reloads' serial → full.Holds tenant reloads serial) :
    full.Mirrors tenant numbers reloads' part (reloads'.map (·.renumber numbers)) :=
  { mirrors with
    underWay := rfl
    distinct := fun serial other holds holdsOther =>
      mirrors.distinct serial other (held serial holds) (held other holdsOther)
    refreshed := fun serial holds => mirrors.refreshed serial (held serial holds) }

/-- What is looked up is the same under other numbers. -/
theorem observe (mirrors : full.Mirrors tenant numbers reloads part reloadsPart) :
    part.cache.observe tenant = (full.cache.observe tenant).renumber numbers := by
  simp only [Cache.observe, Reload.renumber, mirrors.cached, mirrors.generation]

/-- The text that is read is the same. -/
theorem storedText (mirrors : full.Mirrors tenant numbers reloads part reloadsPart) :
    part.store.text tenant = full.store.text tenant := by
  simp only [TextStore.text, mirrors.outage, mirrors.text]

/-- What a tenant holds in one service it holds in the other under its number there. -/
theorem holds
    (mirrors : full.Mirrors tenant numbers reloads part reloadsPart)
    {serial : Nat}
    (held : full.Holds tenant reloads serial) :
    part.Holds tenant reloadsPart (numbers serial) := by
  rcases held with ⟨existing, found, rfl⟩ | ⟨pending, member, existing, found, rfl⟩
  · refine .inl ⟨existing.renumber numbers, ?_, rfl⟩
    rw [mirrors.cached, found]
    rfl
  · refine .inr ⟨pending.renumber numbers, ?_, existing.renumber numbers, ?_, rfl⟩
    · rw [mirrors.underWay]
      exact List.mem_map_of_mem member
    · exact Option.mem_map_of_mem _ found

/-- What a tenant holds is told apart by the numbers elsewhere. -/
theorem numbers_eq_iff
    (mirrors : full.Mirrors tenant numbers reloads part reloadsPart)
    {serial other : Nat}
    (held : full.Holds tenant reloads serial)
    (heldOther : full.Holds tenant reloads other) :
    numbers serial = numbers other ↔ serial = other :=
  ⟨mirrors.distinct serial other held heldOther, congrArg numbers⟩

/-- Both services may claim the refresh of the entry that the tenant has. -/
theorem claimRefresh
    (mirrors : full.Mirrors tenant numbers reloads part reloadsPart)
    {serial : Nat}
    (held : full.Holds tenant reloads serial) :
    (full.withCache (·.countHit.claimRefresh serial)).Mirrors tenant numbers reloads
      (part.withCache (·.countHit.claimRefresh (numbers serial))) reloadsPart :=
  { mirrors with
    refreshed := by
      intro other heldOther
      have same := mirrors.numbers_eq_iff heldOther held
      simp only [withCache, Cache.claimRefresh, Cache.countHit, List.mem_cons, same]
      exact or_congr_right (mirrors.refreshed other heldOther) }

/-- Both services may give a refresh back that was claimed for the tenant. -/
theorem unclaimRefresh
    (mirrors : full.Mirrors tenant numbers reloads part reloadsPart)
    {serial : Nat}
    (held : full.Holds tenant reloads serial) :
    (full.withCache (·.unclaimRefresh serial)).Mirrors tenant numbers reloads
      (part.withCache (·.unclaimRefresh (numbers serial))) reloadsPart :=
  { mirrors with
    refreshed := by
      intro other heldOther
      have same := mirrors.numbers_eq_iff heldOther held
      have refreshed := mirrors.refreshed other heldOther
      simp [withCache, Cache.unclaimRefresh, same, refreshed] }

/-- A lookup finds the same in both services and leaves them alike. -/
theorem lookup (mirrors : full.Mirrors tenant numbers reloads part reloadsPart) :
    (part.lookup tenant).1 = (full.lookup tenant).1.renumber numbers ∧
      (full.lookup tenant).2.Mirrors tenant numbers reloads
        (part.lookup tenant).2 reloadsPart := by
  simp only [Service.lookup, Cache.lookup, Cache.proceed, mirrors.observe, mirrors.lifetimes,
    mirrors.now]
  cases found : full.cache.cached.get? tenant with
  | none =>
      simp only [Cache.observe, Reload.renumber, found, Option.map_none]
      exact ⟨rfl, { mirrors with now := rfl }⟩
  | some existing =>
      simp only [Cache.observe, Reload.renumber, found, Option.map_some, freshness_renumber]
      have held : full.Holds tenant reloads existing.serial := .inl ⟨existing, found, rfl⟩
      cases existing.freshness full.cache.lifetimes full.now with
      | fresh => exact ⟨rfl, { mirrors with now := rfl }⟩
      | expired => exact ⟨rfl, { mirrors with now := rfl }⟩
      | stale =>
          have claimed :
              (existing.renumber numbers).serial ∈ part.cache.refreshed ↔
                existing.serial ∈ full.cache.refreshed :=
            mirrors.refreshed existing.serial held
          by_cases used : existing.serial ∈ full.cache.refreshed
          · simp only [claimed, used, if_true]
            exact ⟨rfl, { mirrors with now := rfl }⟩
          · simp only [claimed, used, if_false]
            exact ⟨rfl, { mirrors.claimRefresh held with now := rfl }⟩

/-- Numbers that agree on what a tenant holds renumber its reloads alike. -/
theorem renumber_congr
    {numbers' : Nat → Nat}
    (agree : ∀ serial, full.Holds tenant reloads serial → numbers' serial = numbers serial) :
    reloads.map (·.renumber numbers') = reloads.map (·.renumber numbers) := by
  refine List.map_congr_left fun pending member => ?_
  have sameExisting :
      pending.reload.existing?.map (·.renumber numbers') =
        pending.reload.existing?.map (·.renumber numbers) := by
    refine Option.map_congr fun existing found => ?_
    rw [CachedRulebook.renumber, CachedRulebook.renumber,
      agree existing.serial (.inr ⟨pending, member, existing, found, rfl⟩)]
  simp only [PendingReload.renumber, Reload.renumber, sameExisting]

/-- The renumbering that takes the next number of one service to that of the other. -/
def extendNumbers (numbers : Nat → Nat) (full part : Service) : Nat → Nat :=
  Function.update numbers full.cache.installs part.cache.installs

@[simp] theorem extendNumbers_installs :
    extendNumbers numbers full part full.cache.installs = part.cache.installs :=
  Function.update_self ..

theorem extendNumbers_of_held
    (known : full.Known tenant reloads)
    {serial : Nat}
    (held : full.Holds tenant reloads serial) :
    extendNumbers numbers full part serial = numbers serial :=
  Function.update_of_ne (Nat.ne_of_lt (known.given serial held)) _ _

/-- What the tenant holds and the next number are told apart by the numbers elsewhere. -/
theorem extendNumbers_injective
    (mirrors : full.Mirrors tenant numbers reloads part reloadsPart)
    (known : full.Known tenant reloads)
    (knownPart : part.Known tenant reloadsPart)
    {serial other : Nat}
    (held : full.Holds tenant reloads serial ∨ serial = full.cache.installs)
    (heldOther : full.Holds tenant reloads other ∨ other = full.cache.installs)
    (same : extendNumbers numbers full part serial = extendNumbers numbers full part other) :
    serial = other := by
  have otherThanNext {serial : Nat} (held : full.Holds tenant reloads serial) :
      numbers serial ≠ part.cache.installs :=
    Nat.ne_of_lt (knownPart.given _ (mirrors.holds held))
  rcases held with held | rfl
  · rw [extendNumbers_of_held known held] at same
    rcases heldOther with heldOther | rfl
    · rw [extendNumbers_of_held known heldOther] at same
      exact mirrors.distinct serial other held heldOther same
    · rw [extendNumbers_installs] at same
      exact absurd same (otherThanNext held)
  · rw [extendNumbers_installs] at same
    rcases heldOther with heldOther | rfl
    · rw [extendNumbers_of_held known heldOther] at same
      exact absurd same.symm (otherThanNext heldOther)
    · rfl

/--
Both services may install a rulebook for the tenant. The numbers it gets in them
are made to correspond; neither has been in use before.
-/
theorem install
    (mirrors : full.Mirrors tenant numbers reloads part reloadsPart)
    (known : full.Known tenant reloads)
    (knownPart : part.Known tenant reloadsPart)
    {reload : Reload}
    (ofTenant : reload.tenant = tenant)
    (rulebook : Rulebook)
    (counts countsPart : CacheCounts) :
    ∃ numbers',
      (full.withCache fun cache =>
          { cache with counts }.install reload rulebook full.now).Mirrors tenant numbers' reloads
        (part.withCache fun cache =>
          { cache with counts := countsPart }.install (reload.renumber numbers) rulebook part.now)
        reloadsPart := by
  subst ofTenant
  by_cases current : full.cache.generation reload.tenant = reload.generation
  · have currentPart :
        part.cache.generation (reload.renumber numbers).tenant =
          (reload.renumber numbers).generation :=
      mirrors.generation.trans current
    refine ⟨extendNumbers numbers full part, ?_⟩
    have before {serial : Nat}
        (held :
          (full.withCache fun cache =>
            { cache with counts }.install reload rulebook full.now).Holds
              reload.tenant reloads serial) :
        full.Holds reload.tenant reloads serial ∨ serial = full.cache.installs :=
      held.of_install current
    rw [install_of_current current] at before ⊢
    rw [install_of_current currentPart]
    refine ⟨mirrors.now, mirrors.outage, mirrors.text, mirrors.lifetimes, mirrors.generation,
      ?_, ?_, ?_, ?_⟩
    · simp only [Reload.tenant_renumber, TenantMap.get?_insert_self, Option.map_some,
        CachedRulebook.renumber, extendNumbers_installs, mirrors.now]
    · rw [mirrors.underWay]
      exact (renumber_congr fun serial held => extendNumbers_of_held known held).symm
    · intro serial other held heldOther same
      exact mirrors.extendNumbers_injective known knownPart (before held) (before heldOther) same
    · intro serial held
      rcases before held with held | rfl
      · rw [extendNumbers_of_held known held]
        exact mirrors.refreshed serial held
      · rw [extendNumbers_installs]
        exact iff_of_false
          (fun claimed => Nat.lt_irrefl _ (knownPart.refreshed _ claimed))
          (fun claimed => Nat.lt_irrefl _ (known.refreshed _ claimed))
  · have outdatedPart :
        part.cache.generation (reload.renumber numbers).tenant ≠
          (reload.renumber numbers).generation :=
      fun currentPart => current (mirrors.generation.symm.trans currentPart)
    refine ⟨numbers, ?_⟩
    rw [install_of_outdated current, install_of_outdated outdatedPart]
    exact { mirrors with }

end Mirrors

/-- What a reload obtains depends neither on numbers nor on what else a service caches. -/
theorem result_complete_renumber
    (service other : Service)
    (numbers : Nat → Nat)
    (reload : Reload)
    (loaded : Except SourceError String) :
    (other.complete (reload.renumber numbers) loaded).1 = (service.complete reload loaded).1 := by
  cases loaded with
  | error error => rfl
  | ok text =>
      have sameChoice :
          (reload.renumber numbers).existing?.filter
              (fun existing => existing.rulebook.digest = Digest.ofText text) =
            (reload.existing?.filter fun existing =>
              existing.rulebook.digest = Digest.ofText text).map (·.renumber numbers) :=
        Option.filter_map ..
      simp only [complete, Cache.complete, Cache.resolve, sameChoice]
      cases reload.existing?.filter fun existing =>
          existing.rulebook.digest = Digest.ofText text with
      | some existing => rfl
      | none => cases Rulebook.ofText text <;> rfl

/-- A reload of the tenant ends alike in both services. -/
theorem Mirrors.complete
    (mirrors : full.Mirrors tenant numbers reloads part reloadsPart)
    (known : full.Known tenant reloads)
    (knownPart : part.Known tenant reloadsPart)
    {reload : Reload}
    (ofTenant : reload.tenant = tenant)
    (loaded : Except SourceError String) :
    ∃ numbers',
      (full.complete reload loaded).2.Mirrors tenant numbers' reloads
        (part.complete (reload.renumber numbers) loaded).2 reloadsPart := by
  obtain ⟨counts, after⟩ := full.service_of_complete reload loaded
  obtain ⟨countsPart, afterPart⟩ := part.service_of_complete (reload.renumber numbers) loaded
  rw [full.result_complete_renumber] at afterPart
  rw [after, afterPart]
  cases (full.complete reload loaded).1 with
  | error error => exact ⟨numbers, mirrors⟩
  | ok rulebook => exact mirrors.install known knownPart ofTenant rulebook counts countsPart

/-- A text of the tenant is written to both services or refused by both. -/
theorem Mirrors.save
    (mirrors : full.Mirrors tenant numbers reloads part reloadsPart)
    (text : String) :
    (∃ error,
        full.store.save tenant text = .error error ∧
          part.store.save tenant text = .error error) ∨
      ∃ store storePart,
        full.store.save tenant text = .ok store ∧
          part.store.save tenant text = .ok storePart ∧
            Mirrors tenant numbers { full with store } reloads
              { part with store := storePart } reloadsPart := by
  have outage := mirrors.outage
  cases up : full.store.outage? with
  | some reason =>
      rw [up] at outage
      exact .inl ⟨.unavailable reason, by simp [TextStore.save, up],
        by simp [TextStore.save, outage]⟩
  | none =>
      rw [up] at outage
      refine .inr ⟨{ full.store with texts := full.store.texts.insert tenant text },
        { part.store with texts := part.store.texts.insert tenant text },
        by simp [TextStore.save, up], by simp [TextStore.save, outage], ?_⟩
      exact
        { mirrors with
          text := by simp }

/-- What is cached for the tenant may be made invalid in both services. -/
theorem Mirrors.invalidate (mirrors : full.Mirrors tenant numbers reloads part reloadsPart) :
    (full.withCache (·.invalidate tenant)).Mirrors tenant numbers reloads
      (part.withCache (·.invalidate tenant)) reloadsPart := by
  have before {serial : Nat}
      (held : (full.withCache (·.invalidate tenant)).Holds tenant reloads serial) :
      full.Holds tenant reloads serial :=
    held.of_forgotten (full.cache.get?_cached_invalidate_self tenant)
  exact
    { mirrors with
      generation := by
        simp only [withCache, Cache.generation_invalidate, if_true, mirrors.generation]
      cached := by
        simp only [withCache, Cache.get?_cached_invalidate_self, Option.map_none]
      distinct := fun serial other held heldOther =>
        mirrors.distinct serial other (before held) (before heldOther)
      refreshed := fun serial held => mirrors.refreshed serial (before held) }

/-- Whatever is cached may be dropped in both services. -/
theorem Mirrors.dropAll (mirrors : full.Mirrors tenant numbers reloads part reloadsPart) :
    (full.withCache Cache.dropAll).Mirrors tenant numbers reloads
      (part.withCache Cache.dropAll) reloadsPart := by
  have before {serial : Nat}
      (held : (full.withCache Cache.dropAll).Holds tenant reloads serial) :
      full.Holds tenant reloads serial :=
    held.of_forgotten (TenantMap.get?_empty tenant)
  have sameDrops : part.cache.drops = full.cache.drops :=
    congrArg Generation.drops mirrors.generation
  exact
    { mirrors with
      generation := by
        simp [withCache, Cache.dropAll, Cache.generation, sameDrops]
      cached := rfl
      distinct := fun serial other held heldOther =>
        mirrors.distinct serial other (before held) (before heldOther)
      refreshed := fun serial held => mirrors.refreshed serial (before held) }

end Service

end LendingRules
