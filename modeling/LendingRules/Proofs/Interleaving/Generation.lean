import LendingRules.Proofs.Interleaving.Transition

namespace LendingRules

/-!
# Generations never recur

The generation of a tenant counts the drops of the whole cache and, since the
last of them, the invalidations of the tenant. Although a drop forgets every
count of invalidations, generations only ever move forward in lexicographic
order, and each invalidation moves its tenant strictly forward. No task that is
under way holds a generation that lies ahead of the present one.
-/

namespace Generation

/-- One generation lies before another in lexicographic order. -/
def Before (first second : Generation) : Prop :=
  first.drops < second.drops ∨
    first.drops = second.drops ∧ first.invalidations < second.invalidations

/-- One generation is the other or lies before it. -/
def NotAfter (first second : Generation) : Prop :=
  first = second ∨ first.Before second

theorem not_before_self (generation : Generation) : ¬ generation.Before generation := by
  simp [Before]

theorem Before.trans
    {first second third : Generation}
    (firstSecond : first.Before second)
    (secondThird : second.Before third) :
    first.Before third := by
  unfold Before at *
  omega

theorem NotAfter.refl (generation : Generation) : generation.NotAfter generation :=
  .inl rfl

theorem NotAfter.before_of_before
    {first second third : Generation}
    (firstSecond : first.NotAfter second)
    (secondThird : second.Before third) :
    first.Before third := by
  rcases firstSecond with rfl | before
  · exact secondThird
  · exact before.trans secondThird

theorem Before.of_notAfter
    {first second third : Generation}
    (firstSecond : first.Before second)
    (secondThird : second.NotAfter third) :
    first.Before third := by
  rcases secondThird with rfl | before
  · exact firstSecond
  · exact firstSecond.trans before

theorem NotAfter.trans
    {first second third : Generation}
    (firstSecond : first.NotAfter second)
    (secondThird : second.NotAfter third) :
    first.NotAfter third := by
  rcases secondThird with rfl | before
  · exact firstSecond
  · exact .inr (firstSecond.before_of_before before)

end Generation

namespace Cache

/-- A drop moves every tenant forward, whatever counts it forgets. -/
theorem before_dropAll (cache : Cache) (tenant : String) :
    (cache.generation tenant).Before (cache.dropAll.generation tenant) :=
  .inl (Nat.lt_succ_self cache.drops)

theorem get?_cached_invalidate_self (cache : Cache) (tenant : String) :
    (cache.invalidate tenant).cached.get? tenant = none := by
  rw [get?_cached_invalidate, if_pos rfl]

/-- An invalidation moves its tenant forward. -/
theorem before_invalidate (cache : Cache) (tenant : String) :
    (cache.generation tenant).Before ((cache.invalidate tenant).generation tenant) := by
  rw [generation_invalidate, if_pos rfl]
  exact .inr ⟨rfl, Nat.lt_succ_self _⟩

/-- An invalidation moves no tenant back. -/
theorem notAfter_invalidate (cache : Cache) (tenant other : String) :
    (cache.generation other).NotAfter ((cache.invalidate tenant).generation other) := by
  by_cases same : other = tenant
  · subst same
    exact .inr (cache.before_invalidate other)
  · rw [generation_invalidate, if_neg same]
    exact .refl _

end Cache

namespace Task.Leads

variable {service : Service} {task : Task} {effect : Effect}

/-- No step of a task moves a generation back. -/
theorem notAfter (leads : task.Leads service effect) (tenant : String) :
    (service.cache.generation tenant).NotAfter
      (effect.service.cache.generation tenant) := by
  cases leads with
  | invalidate other => exact service.cache.notAfter_invalidate other tenant
  | dropAll => exact .inr (service.cache.before_dropAll tenant)
  | install role reload rulebook now =>
      exact .inl (service.cache.generation_install reload rulebook now tenant).symm
  | replaced other text invalidate =>
      cases invalidate with
      | false => exact .refl _
      | true => exact service.cache.notAfter_invalidate other tenant
  | _ => exact .refl _

/-- What a task takes along it took along before, or looks up just now. -/
theorem reload?_next
    {next : Task}
    {reload : Reload}
    (leads : task.Leads service effect)
    (goesOn : effect.next? = some next)
    (takes : next.reload? = some reload) :
    task.reload? = some reload ∨
      (∃ now lifetimes, task = .configured reload.tenant now lifetimes) ∧
        reload = service.cache.observe reload.tenant := by
  cases leads with
  | observe tenant now lifetimes =>
      cases goesOn
      cases takes
      exact .inr ⟨⟨now, lifetimes, rfl⟩, rfl⟩
  | miss | loaded | revalidate | recompile | stamp =>
      cases goesOn
      exact .inl takes
  | unloaded role | fail role | install role =>
      cases role <;> cases goesOn
      cases takes
  | _ =>
      cases goesOn <;> cases takes

/-- A refresh takes along what the get that starts it has looked up. -/
theorem reload?_of_refresh
    {reload : Reload}
    (leads : task.Leads service effect)
    (refreshed : effect.refresh? = some reload) :
    task.reload? = some reload := by
  cases leads <;> cases refreshed
  rfl

/-- An invalidation removes the entry, begins a generation and ends its task. -/
theorem of_invalidates
    {event : Event}
    {tenant : String}
    (leads : task.Leads service effect)
    (happened : effect.event? = some event)
    (invalidates : event.Invalidates tenant) :
    effect.next? = none ∧
      effect.refresh? = none ∧
      effect.service.cache.cached.get? tenant = none ∧
      (service.cache.generation tenant).Before
        (effect.service.cache.generation tenant) := by
  cases leads with
  | invalidate other =>
      cases happened
      cases invalidates
      refine ⟨rfl, rfl, ?_, service.cache.before_invalidate tenant⟩
      exact service.cache.get?_cached_invalidate_self tenant
  | dropAll =>
      exact ⟨rfl, rfl, rfl, service.cache.before_dropAll tenant⟩
  | replaced other text invalidate =>
      cases happened
      obtain ⟨rfl, rfl⟩ := invalidates
      refine ⟨rfl, rfl, ?_, service.cache.before_invalidate other⟩
      exact service.cache.get?_cached_invalidate_self other
  | _ => cases happened <;> cases invalidates

end Task.Leads

namespace World

/-- What a task has looked up is not ahead of the present generation. -/
def NoneAhead (world : World) : Prop :=
  ∀ number task reload,
    world.tasks number = some task →
      task.reload? = some reload →
        reload.generation.NotAfter (world.service.cache.generation reload.tenant)

/-- No way to go on moves a generation back. -/
theorem Leads.notAfter
    {world next : World}
    (leads : world.Leads next)
    (tenant : String) :
    (world.service.cache.generation tenant).NotAfter
      (next.service.cache.generation tenant) := by
  cases leads with
  | performed underWay leads => exact leads.notAfter tenant
  | @abandoned number reload underWay =>
      refine .inl ?_
      unfold giveUp
      cases reload.existing? <;> rfl
  | _ => exact .refl _

theorem NoneAhead.of_leads
    {world next : World}
    (leads : world.Leads next)
    (noneAhead : world.NoneAhead) :
    next.NoneAhead := by
  intro query task reload underWay takes
  have forward := leads.notAfter reload.tenant
  cases leads with
  | idle => exact noneAhead query task reload underWay takes
  | started operation =>
      rcases task_of_startTask underWay with ⟨-, rfl⟩ | before
      · cases takes
      · exact noneAhead query task reload before takes
  | @performed number performing effect wasUnderWay leads =>
      rcases task_of_settle underWay with
        ⟨-, refresh, refreshed, rfl⟩ | ⟨-, goesOn⟩ | ⟨-, before⟩
      · cases takes
        have took := leads.reload?_of_refresh refreshed
        exact (noneAhead number performing reload wasUnderWay took).trans forward
      · rcases leads.reload?_next goesOn takes with took | ⟨-, looksUp⟩
        · exact (noneAhead number performing reload wasUnderWay took).trans forward
        · rw [looksUp]
          exact forward
      · exact (noneAhead query task reload before takes).trans forward
  | abandoned =>
      exact (noneAhead query task reload (task_of_giveUp underWay) takes).trans forward
  | advanced | outage =>
      exact noneAhead query task reload underWay takes

end World

end LendingRules
