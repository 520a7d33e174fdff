import LendingRules.Proofs.Interleaving.Transition

namespace LendingRules

/-!
# What becomes of an entry

However operations interleave, there are two ways for an entry to go: its tenant is
made invalid, or a reload of the tenant installs what it found. As long as an entry
has not expired, whoever finds it is answered from it.
-/

/-- An entry has not expired as long as it is younger than the expiry age. -/
theorem CachedRulebook.unexpired_iff
    (cached : CachedRulebook)
    (lifetimes : Lifetimes)
    (now : Nat) :
    cached.freshness lifetimes now ≠ .expired ↔ cached.age now < lifetimes.expiryAge := by
  by_cases expired : lifetimes.expiryAge ≤ cached.age now
  · simp [freshness, expired]
  · rw [freshness, if_neg expired]
    refine iff_of_true ?_ (Nat.lt_of_not_le expired)
    split <;> simp

/-- Whether the next step of a task makes the entry of a tenant invalid. -/
def Task.Forgets (tenant : String) : Task → Prop
  | .starting (.invalidate other) => other = tenant
  | .starting .dropAll => True
  | .replacing other _ invalidates => other = tenant ∧ invalidates = true
  | _ => False

namespace Task

/--
However operations interleave, an entry stays through the step of a task, or the
task makes it invalid, or the task installs what its reload of the tenant found.
-/
theorem Leads.cached_of_tenant
    {service : Service}
    {task : Task}
    {effect : Effect}
    (leads : task.Leads service effect)
    (tenant : String) :
    effect.service.cache.cached.get? tenant = service.cache.cached.get? tenant ∨
      task.Forgets tenant ∧ effect.service.cache.cached.get? tenant = none ∨
      ∃ role reload rulebook now,
        task = .installing role reload rulebook now ∧ reload.tenant = tenant ∧
          effect.service.cache.cached.get? tenant =
            some { rulebook, loadedAt := now, serial := service.cache.installs } := by
  cases leads with
  | invalidate other =>
      rw [Service.withCache, Cache.get?_cached_invalidate]
      by_cases same : tenant = other
      · exact .inr (.inl ⟨same.symm, if_pos same⟩)
      · exact .inl (if_neg same)
  | dropAll => exact .inr (.inl ⟨trivial, TenantMap.get?_empty tenant⟩)
  | replaced other text invalidates =>
      cases invalidates with
      | false => exact .inl rfl
      | true =>
          simp only [if_true, Service.withCache, Cache.get?_cached_invalidate]
          by_cases same : tenant = other
          · exact .inr (.inl ⟨⟨same.symm, rfl⟩, if_pos same⟩)
          · exact .inl (if_neg same)
  | install role reload rulebook now =>
      by_cases current : service.cache.generation reload.tenant = reload.generation
      · have installs :
            (service.cache.install reload rulebook now).cached.get? tenant =
              if tenant = reload.tenant then
                some { rulebook, loadedAt := now, serial := service.cache.installs }
              else
                service.cache.cached.get? tenant := by
          rw [Cache.install, if_pos current, TenantMap.get?_insert]
        rw [Service.withCache, installs]
        by_cases same : tenant = reload.tenant
        · exact .inr (.inr ⟨role, reload, rulebook, now, rfl, same.symm, if_pos same⟩)
        · exact .inl (if_neg same)
      · refine .inl ?_
        rw [Service.withCache, Cache.install, if_neg current]
  | _ => exact .inl rfl

/-- A get that has found an entry which has not expired goes on to answer from it. -/
theorem next?_of_young
    {observed : Reload}
    {existing : CachedRulebook}
    {lifetimes : Lifetimes}
    {now : Nat}
    (found : observed.existing? = some existing)
    (young : existing.age now < lifetimes.expiryAge)
    (service : Service) :
    ((deciding now lifetimes observed).advance service).next? =
      some (.answering observed.tenant (.ok existing.rulebook)) := by
  simp only [advance]
  rcases service.cache.proceed_cases lifetimes now observed with
    ⟨other, foundOther, -, served⟩ | ⟨other, foundOther, -, -, refreshing⟩ | ⟨expired, -⟩
  · cases found.symm.trans foundOther
    rw [served]
  · cases found.symm.trans foundOther
    rw [refreshing]
  · exact absurd (expired existing found) ((existing.unexpired_iff _ _).mpr young)

end Task

/--
A move keeps the entry of a tenant, or it is the step of a task that makes the entry
invalid or replaces it by what a reload of the tenant found.
-/
def World.KeepsEntry (world : World) (move : Move) (tenant : String) : Prop :=
  (world.step move).service.cache.cached.get? tenant =
      world.service.cache.cached.get? tenant ∨
    ∃ number task,
      move = .perform number ∧ world.tasks number = some task ∧
        (task.Forgets tenant ∧
            (world.step move).service.cache.cached.get? tenant = none ∨
          ∃ role reload rulebook now,
            task = .installing role reload rulebook now ∧ reload.tenant = tenant ∧
              (world.step move).service.cache.cached.get? tenant =
                some { rulebook, loadedAt := now, serial := world.service.cache.installs })

/-- Every move keeps the entries of all tenants, but for what tasks do on purpose. -/
theorem World.keepsEntry (world : World) (move : Move) (tenant : String) :
    world.KeepsEntry move tenant := by
  unfold KeepsEntry
  cases move with
  | perform number =>
      simp only [step, performTask]
      cases underWay : world.tasks number with
      | none => exact .inl rfl
      | some task =>
          rcases (task.leads_advance world.service).cached_of_tenant tenant with
            stays | forgotten | installed
          · exact .inl stays
          · exact .inr ⟨number, task, rfl, underWay, .inl forgotten⟩
          · exact .inr ⟨number, task, rfl, underWay, .inr installed⟩
  | abandon number =>
      refine .inl ?_
      simp only [step, abandonTask]
      split
      · rename_i reload underWay
        unfold giveUp
        cases reload.existing? <;> rfl
      · rfl
  | start | advance | setOutage => exact .inl rfl

end LendingRules
