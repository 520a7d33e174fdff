import LendingRules.Proofs.Interleaving.Generation
import LendingRules.Proofs.Interleaving.StoredText
import LendingRules.Proofs.Tenancy.Errands

namespace LendingRules

/-!
# Errands are confined to their tenant

An errand leaves the text, the entry and the generation of every other tenant as
they are, and the clock, the lifetimes and the outage as well. What is counted for
all tenants together is the serial of the next rulebook. It is of no use to tell
tenants apart but by this: whoever holds a serial has it from an install of their
own, and the refreshes of no other rulebooks are claimed or given back.
-/

/--
Whether a tenant holds a serial: that of its entry, or one that was looked up for
a reload under way.
-/
def Service.Holds
    (service : Service)
    (tenant : String)
    (reloads : List PendingReload)
    (serial : Nat) : Prop :=
  (∃ existing, service.cache.cached.get? tenant = some existing ∧ existing.serial = serial) ∨
    ∃ pending ∈ reloads, ∃ existing ∈ pending.reload.existing?, existing.serial = serial

/-- What a tenant holds and what refreshes are claimed are serials of rulebooks installed. -/
structure Service.Known
    (tenant : String)
    (service : Service)
    (reloads : List PendingReload) : Prop where
  given : ∀ serial, service.Holds tenant reloads serial → serial < service.cache.installs
  refreshed : ∀ serial ∈ service.cache.refreshed, serial < service.cache.installs

/-- What an errand for a tenant leaves as it is, and whose serials it deals with. -/
structure Service.Confined
    (tenant : String)
    (service : Service)
    (reloads : List PendingReload)
    (after : Service)
    (reloadsAfter : List PendingReload) : Prop where
  now : after.now = service.now
  outage : after.store.outage? = service.store.outage?
  lifetimes : after.cache.lifetimes = service.cache.lifetimes
  text :
    ∀ other, other ≠ tenant →
      after.store.texts.get? other = service.store.texts.get? other
  generation :
    ∀ other, other ≠ tenant →
      after.cache.generation other = service.cache.generation other
  cached :
    ∀ other, other ≠ tenant →
      after.cache.cached.get? other = service.cache.cached.get? other
  installs : service.cache.installs ≤ after.cache.installs
  tenants : ∀ pending ∈ reloadsAfter, pending.reload.tenant = tenant
  holds :
    ∀ serial, after.Holds tenant reloadsAfter serial →
      service.Holds tenant reloads serial ∨
        serial = service.cache.installs ∧ serial < after.cache.installs
  refreshed :
    ∀ serial, ¬ service.Holds tenant reloads serial →
      (serial ∈ after.cache.refreshed ↔ serial ∈ service.cache.refreshed)

namespace Service

variable {service : Service} {tenant : String} {reloads : List PendingReload}

/-- Whatever a tenant holds in fewer reloads it holds in more. -/
theorem Holds.of_subset
    {fewer : List PendingReload}
    {serial : Nat}
    (holds : service.Holds tenant fewer serial)
    (included : fewer ⊆ reloads) :
    service.Holds tenant reloads serial := by
  rcases holds with cached | ⟨pending, member, waiting⟩
  · exact .inl cached
  · exact .inr ⟨pending, included member, waiting⟩

/-- A reload that has just looked its tenant up adds nothing to what the tenant holds. -/
theorem Holds.of_observe
    {serial : Nat}
    {question? : Option Question}
    (holds :
      service.Holds tenant
        (reloads ++ [{ reload := service.cache.observe tenant, question? }]) serial) :
    service.Holds tenant reloads serial := by
  rcases holds with cached | ⟨pending, member, existing, found, same⟩
  · exact .inl cached
  · rcases List.mem_append.mp member with before | new
    · exact .inr ⟨pending, before, existing, found, same⟩
    · cases List.mem_singleton.mp new
      exact .inl ⟨existing, found, same⟩

/-- A text that is kept with a reload under way adds nothing to what the tenant holds. -/
theorem Holds.of_set_loaded
    {place serial : Nat}
    {pending : PendingReload}
    {loaded : Except SourceError String}
    (waits : reloads[place]? = some pending)
    (holds :
      service.Holds tenant (reloads.set place { pending with loaded? := some loaded }) serial) :
    service.Holds tenant reloads serial := by
  rcases holds with cached | ⟨other, member, waiting⟩
  · exact .inl cached
  · rcases List.mem_or_eq_of_mem_set member with before | rfl
    · exact .inr ⟨other, before, waiting⟩
    · exact .inr ⟨pending, List.mem_of_getElem? waits, waiting⟩

variable {reload : Reload} {rulebook : Rulebook} {counts : CacheCounts}

/-- What an install leaves behind when the tenant was not invalidated since the lookup. -/
theorem install_of_current
    (current : service.cache.generation reload.tenant = reload.generation)
    (now : Nat) :
    (service.withCache fun cache => { cache with counts }.install reload rulebook now) =
      { service with
        cache :=
          { service.cache with
            counts
            cached :=
              service.cache.cached.insert reload.tenant
                { rulebook, loadedAt := now, serial := service.cache.installs }
            installs := service.cache.installs + 1 } } :=
  congrArg (fun cache => { service with cache }) (if_pos current)

/-- What was looked up before an invalidation is not installed. -/
theorem install_of_outdated
    (outdated : service.cache.generation reload.tenant ≠ reload.generation)
    (now : Nat) :
    (service.withCache fun cache => { cache with counts }.install reload rulebook now) =
      { service with cache := { service.cache with counts } } :=
  congrArg (fun cache => { service with cache }) (if_neg outdated)

/-- Once its entry is gone, a tenant holds the serials of its reloads only. -/
theorem Holds.of_forgotten
    {after : Service}
    {serial : Nat}
    (forgotten : after.cache.cached.get? tenant = none)
    (holds : after.Holds tenant reloads serial) :
    service.Holds tenant reloads serial := by
  rcases holds with ⟨existing, found, -⟩ | waiting
  · exact absurd (found.symm.trans forgotten) (by simp)
  · exact .inr waiting

/-- A tenant that gets a rulebook installed holds at most its number in addition. -/
theorem Holds.of_install
    {now serial : Nat}
    (current : service.cache.generation reload.tenant = reload.generation)
    (holds :
      (service.withCache fun cache =>
        { cache with counts }.install reload rulebook now).Holds reload.tenant reloads serial) :
    service.Holds reload.tenant reloads serial ∨ serial = service.cache.installs := by
  rw [install_of_current current] at holds
  rcases holds with ⟨existing, found, rfl⟩ | waiting
  · rw [TenantMap.get?_insert_self] at found
    cases found
    exact .inr rfl
  · exact .inl (.inr waiting)

variable {reloadsAfter : List PendingReload}

/-- What only counts is confined, whatever becomes of the reloads of the tenant. -/
theorem Confined.of_counts
    {loads : Nat}
    (tenants : ∀ pending ∈ reloadsAfter, pending.reload.tenant = tenant)
    (holds :
      ∀ serial, service.Holds tenant reloadsAfter serial →
        service.Holds tenant reloads serial) :
    Confined tenant service reloads
      { service with
        store := { service.store with loads }
        cache := { service.cache with counts } }
      reloadsAfter where
  now := rfl
  outage := rfl
  lifetimes := rfl
  text := fun _ _ => rfl
  generation := fun _ _ => rfl
  cached := fun _ _ => rfl
  installs := Nat.le_refl _
  tenants := tenants
  holds := fun serial held => .inl (holds serial held)
  refreshed := fun _ _ => .rfl

/-- To claim the refresh of the tenant's own entry is confined. -/
theorem Confined.claimRefresh
    {existing : CachedRulebook}
    (tenants : ∀ pending ∈ reloadsAfter, pending.reload.tenant = tenant)
    (holds :
      ∀ serial, service.Holds tenant reloadsAfter serial →
        service.Holds tenant reloads serial)
    (found : service.cache.cached.get? tenant = some existing) :
    Confined tenant service reloads
      { service with
        cache :=
          { service.cache with
            counts
            refreshed := existing.serial :: service.cache.refreshed } }
      reloadsAfter where
  now := rfl
  outage := rfl
  lifetimes := rfl
  text := fun _ _ => rfl
  generation := fun _ _ => rfl
  cached := fun _ _ => rfl
  installs := Nat.le_refl _
  tenants := tenants
  holds := fun serial held => .inl (holds serial held)
  refreshed := by
    intro serial foreign
    have different : serial ≠ existing.serial := by
      rintro rfl
      exact foreign (.inl ⟨existing, found, rfl⟩)
    simp [different]

/-- To give the refresh back that was claimed for the tenant is confined. -/
theorem Confined.unclaimRefresh
    {pending : PendingReload}
    {existing : CachedRulebook}
    (tenants : ∀ pending ∈ reloadsAfter, pending.reload.tenant = tenant)
    (holds :
      ∀ serial, service.Holds tenant reloadsAfter serial →
        service.Holds tenant reloads serial)
    (waits : pending ∈ reloads)
    (found : pending.reload.existing? = some existing) :
    Confined tenant service reloads
      (service.withCache (·.unclaimRefresh existing.serial)) reloadsAfter where
  now := rfl
  outage := rfl
  lifetimes := rfl
  text := fun _ _ => rfl
  generation := fun _ _ => rfl
  cached := fun _ _ => rfl
  installs := Nat.le_refl _
  tenants := tenants
  holds := fun serial held => .inl (holds serial held)
  refreshed := by
    intro serial foreign
    have different : serial ≠ existing.serial := by
      rintro rfl
      exact foreign (.inr ⟨pending, waits, existing, found, rfl⟩)
    simp [withCache, Cache.unclaimRefresh, different]

/-- To install a rulebook for the tenant is confined; the serial it gets is new. -/
theorem Confined.install
    (tenants : ∀ pending ∈ reloadsAfter, pending.reload.tenant = tenant)
    (included : reloadsAfter ⊆ reloads)
    (ofTenant : reload.tenant = tenant) :
    Confined tenant service reloads
      (service.withCache fun cache =>
        { cache with counts }.install reload rulebook service.now)
      reloadsAfter := by
  subst ofTenant
  by_cases current : service.cache.generation reload.tenant = reload.generation
  · have holds (serial : Nat)
        (held :
          (service.withCache fun cache =>
            { cache with counts }.install reload rulebook service.now).Holds
              reload.tenant reloadsAfter serial) :
        service.Holds reload.tenant reloads serial ∨ serial = service.cache.installs :=
      (held.of_install current).imp_left (·.of_subset included)
    rw [install_of_current current] at holds ⊢
    refine ⟨rfl, rfl, rfl, fun _ _ => rfl, fun _ _ => rfl, ?_, Nat.le_succ _, tenants, ?_,
      fun _ _ => .rfl⟩
    · intro other different
      rw [TenantMap.get?_insert, if_neg different]
    · intro serial held
      rcases holds serial held with before | rfl
      · exact .inl before
      · exact .inr ⟨rfl, Nat.lt_succ_self _⟩
  · rw [install_of_outdated current]
    exact .of_counts tenants fun serial held => held.of_subset included

/-- To write a text of the tenant is confined. -/
theorem Confined.save
    {store : TextStore}
    {text : String}
    (tenants : ∀ pending ∈ reloads, pending.reload.tenant = tenant)
    (success : service.store.save tenant text = .ok store) :
    Confined tenant service reloads { service with store } reloads where
  now := rfl
  outage := by
    unfold TextStore.save at success
    split at success
    · cases success
    · cases success
      rfl
  lifetimes := rfl
  text := by
    intro other different
    rw [TextStore.get?_of_save success, if_neg different]
  generation := fun _ _ => rfl
  cached := fun _ _ => rfl
  installs := Nat.le_refl _
  tenants := tenants
  holds := fun _ held => .inl held
  refreshed := fun _ _ => .rfl

/-- To invalidate what is cached for the tenant is confined. -/
theorem Confined.invalidate (tenants : ∀ pending ∈ reloads, pending.reload.tenant = tenant) :
    Confined tenant service reloads (service.withCache (·.invalidate tenant)) reloads where
  now := rfl
  outage := rfl
  lifetimes := rfl
  text := fun _ _ => rfl
  generation := by
    intro other different
    exact (service.cache.generation_invalidate tenant other).trans (if_neg different)
  cached := by
    intro other different
    exact (service.cache.get?_cached_invalidate tenant other).trans (if_neg different)
  installs := Nat.le_refl _
  tenants := tenants
  holds := by
    intro serial held
    exact .inl (held.of_forgotten (service.cache.get?_cached_invalidate_self tenant))
  refreshed := fun _ _ => .rfl

/-- One confined change after another is confined. -/
theorem Confined.trans
    {middle after : Service}
    {reloadsMiddle : List PendingReload}
    (first : Confined tenant service reloads middle reloadsMiddle)
    (second : Confined tenant middle reloadsMiddle after reloadsAfter)
    (sameInstalls : middle.cache.installs = service.cache.installs) :
    Confined tenant service reloads after reloadsAfter where
  now := second.now.trans first.now
  outage := second.outage.trans first.outage
  lifetimes := second.lifetimes.trans first.lifetimes
  text := fun other different => (second.text other different).trans (first.text other different)
  generation := fun other different =>
    (second.generation other different).trans (first.generation other different)
  cached := fun other different =>
    (second.cached other different).trans (first.cached other different)
  installs := Nat.le_trans first.installs second.installs
  tenants := second.tenants
  holds := by
    intro serial held
    rcases second.holds serial held with before | ⟨new, known⟩
    · rcases first.holds serial before with first | ⟨rfl, impossible⟩
      · exact .inl first
      · exact absurd impossible (by simp [sameInstalls])
    · rw [sameInstalls] at new
      exact .inr ⟨new, known⟩
  refreshed := by
    intro serial foreign
    have foreignInMiddle : ¬ middle.Holds tenant reloadsMiddle serial := by
      intro held
      rcases first.holds serial held with before | ⟨rfl, impossible⟩
      · exact foreign before
      · exact absurd impossible (by simp [sameInstalls])
    exact (second.refreshed serial foreignInMiddle).trans (first.refreshed serial foreign)

end Service

namespace Errand.Ends

/-- An errand is confined to its tenant. -/
theorem confined
    {service after : Service}
    {tenant : String}
    {reloads reloadsAfter : List PendingReload}
    {errand : Errand}
    {reply : Reply}
    (ends : errand.Ends service tenant reloads reply after reloadsAfter)
    (tenants : ∀ pending ∈ reloads, pending.reload.tenant = tenant) :
    service.Confined tenant reloads after reloadsAfter := by
  have tenantsErased (place : Nat) :
      ∀ pending ∈ reloads.eraseIdx place, pending.reload.tenant = tenant :=
    fun pending member => tenants pending (List.mem_of_mem_eraseIdx member)
  have tenantsObserved (question? : Option Question) :
      ∀ pending ∈ reloads ++ [{ reload := service.cache.observe tenant, question? }],
        pending.reload.tenant = tenant := by
    intro pending member
    rcases List.mem_append.mp member with before | new
    · exact tenants pending before
    · cases List.mem_singleton.mp new
      rfl
  have fewer (place : Nat) : reloads.eraseIdx place ⊆ reloads :=
    (List.eraseIdx_sublist reloads place).subset
  cases ends with
  | refreshing valid found stale =>
      exact .claimRefresh (tenantsObserved none) (fun _ held => held.of_observe) found
  | missed => exact .of_counts (tenantsObserved _) fun _ held => held.of_observe
  | @loaded place pending waits unread =>
      refine .of_counts ?_ fun _ held => held.of_set_loaded waits
      intro other member
      rcases List.mem_or_eq_of_mem_set member with before | rfl
      · exact tenants other before
      · exact tenants pending (List.mem_of_getElem? waits)
  | @unloaded place | @failed place =>
      exact .of_counts (tenantsErased place) fun _ held => held.of_subset (fewer place)
  | @revalidated place pending text existing waits | @recompiled place pending text made waits =>
      exact .install (tenantsErased place) (fewer place)
        (tenants pending (List.mem_of_getElem? waits))
  | @abandoned place reload waits =>
      cases found : reload.existing? with
      | none => exact .of_counts (tenantsErased place) fun _ held => held.of_subset (fewer place)
      | some existing =>
          exact .unclaimRefresh (tenantsErased place) (fun _ held => held.of_subset (fewer place))
            (List.mem_of_getElem? waits) found
  | @replaced text rulebook store invalidate compiled success =>
      have saved := Service.Confined.save tenants success
      cases invalidate with
      | false => exact saved
      | true => exact saved.trans (.invalidate tenants) rfl
  | saved success => exact .save tenants success
  | invalidated => exact .invalidate tenants
  | _ => exact .of_counts tenants fun _ held => held

end Errand.Ends

/--
The reloads under way for a tenant are its own, and whatever serial is in use has
been given to a rulebook, and only one tenant holds it.
-/
structure Office.Numbered (office : Office) : Prop where
  tenants : ∀ tenant, ∀ pending ∈ office.reloads tenant, pending.reload.tenant = tenant
  given :
    ∀ tenant serial, office.service.Holds tenant (office.reloads tenant) serial →
      serial < office.service.cache.installs
  owned :
    ∀ tenant other serial, office.service.Holds tenant (office.reloads tenant) serial →
      office.service.Holds other (office.reloads other) serial → other = tenant
  refreshed :
    ∀ serial ∈ office.service.cache.refreshed, serial < office.service.cache.installs

namespace Office

/-- Whoever has done nothing yet holds no serial. -/
theorem numbered_start (lifetimes : Lifetimes) (texts : List (String × String)) :
    (start lifetimes texts).Numbered := by
  have nothing (tenant : String) (serial : Nat) :
      ¬ (start lifetimes texts).service.Holds tenant
        ((start lifetimes texts).reloads tenant) serial := by
    rintro (⟨existing, found, -⟩ | ⟨pending, member, -⟩)
    · cases found
    · cases member
  refine ⟨?_, ?_, ?_, ?_⟩
  · intro tenant pending member
    cases member
  · intro tenant serial held
    exact absurd held (nothing tenant serial)
  · intro tenant other serial held
    exact absurd held (nothing tenant serial)
  · intro serial member
    cases member

variable {office : Office}

theorem Numbered.known (numbered : office.Numbered) (tenant : String) :
    office.service.Known tenant (office.reloads tenant) :=
  ⟨numbered.given tenant, numbered.refreshed⟩

/-- An errand for a tenant is confined to it. -/
theorem Numbered.confined (numbered : office.Numbered) (tenant : String) (errand : Errand) :
    office.service.Confined tenant (office.reloads tenant)
      (office.act (.errand tenant errand)).2.service
      ((office.act (.errand tenant errand)).2.reloads tenant) :=
  (office.ends_act tenant errand).confined (numbered.tenants tenant)

/-- An errand for one tenant changes nothing about what another one holds. -/
theorem Numbered.holds_act_other
    (numbered : office.Numbered)
    {tenant other : String}
    (different : other ≠ tenant)
    (errand : Errand)
    (serial : Nat) :
    (office.act (.errand tenant errand)).2.service.Holds other
        ((office.act (.errand tenant errand)).2.reloads other) serial ↔
      office.service.Holds other (office.reloads other) serial := by
  rw [reloads_act_other different, Service.Holds, Service.Holds,
    (numbered.confined tenant errand).cached other different]

/-- Errands keep the serials in use apart. -/
theorem Numbered.errand (numbered : office.Numbered) (tenant : String) (errand : Errand) :
    (office.act (.errand tenant errand)).2.Numbered := by
  have confined := numbered.confined tenant errand
  -- Whoever holds a serial afterwards held it before, unless it has just been given.
  have before {owner : String} {serial : Nat}
      (held :
        (office.act (.errand tenant errand)).2.service.Holds owner
          ((office.act (.errand tenant errand)).2.reloads owner) serial) :
      office.service.Holds owner (office.reloads owner) serial ∨
        owner = tenant ∧ serial = office.service.cache.installs ∧
          serial < (office.act (.errand tenant errand)).2.service.cache.installs := by
    by_cases same : owner = tenant
    · subst same
      rcases confined.holds serial held with earlier | new
      · exact .inl earlier
      · exact .inr ⟨rfl, new⟩
    · exact .inl ((numbered.holds_act_other same errand serial).mp held)
  refine ⟨?_, ?_, ?_, ?_⟩
  · intro owner pending member
    by_cases same : owner = tenant
    · subst same
      exact confined.tenants pending member
    · rw [reloads_act_other same] at member
      exact numbered.tenants owner pending member
  · intro owner serial held
    rcases before held with earlier | ⟨-, -, known⟩
    · exact Nat.lt_of_lt_of_le (numbered.given owner serial earlier) confined.installs
    · exact known
  · intro owner other serial held heldByOther
    rcases before held with earlier | ⟨rfl, rfl, -⟩
    · rcases before heldByOther with earlierByOther | ⟨-, rfl, -⟩
      · exact numbered.owned owner other serial earlier earlierByOther
      · exact absurd (numbered.given owner _ earlier) (Nat.lt_irrefl _)
    · rcases before heldByOther with earlierByOther | ⟨rfl, -, -⟩
      · exact absurd (numbered.given other _ earlierByOther) (Nat.lt_irrefl _)
      · rfl
  · intro serial member
    refine Nat.lt_of_lt_of_le ?_ confined.installs
    by_cases held : office.service.Holds tenant (office.reloads tenant) serial
    · exact numbered.given tenant serial held
    · exact numbered.refreshed serial ((confined.refreshed serial held).mp member)

/-- Whatever the office does, it keeps the serials in use apart. -/
theorem Numbered.act (numbered : office.Numbered) (act : Act) :
    (office.act act).2.Numbered := by
  cases act with
  | errand tenant errand => exact numbered.errand tenant errand
  | setLifetimes | advance | setOutage =>
      exact ⟨numbered.tenants, numbered.given, numbered.owned, numbered.refreshed⟩
  | dropAll =>
      have before {tenant : String} {serial : Nat}
          (held :
            (office.act .dropAll).2.service.Holds tenant (office.reloads tenant) serial) :
          office.service.Holds tenant (office.reloads tenant) serial :=
        held.of_forgotten (TenantMap.get?_empty tenant)
      exact ⟨numbered.tenants, fun tenant serial held => numbered.given tenant serial (before held),
        fun tenant other serial held heldByOther =>
          numbered.owned tenant other serial (before held) (before heldByOther),
        numbered.refreshed⟩

end Office

end LendingRules
