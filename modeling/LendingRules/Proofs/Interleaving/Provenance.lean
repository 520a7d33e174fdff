import LendingRules.Proofs.Interleaving.Transition

namespace LendingRules

/-!
# Where rulebooks come from

Whatever a task holds of its tenant is the rulebook of the entry it looked up,
a text that it read, or the rulebook of that text. So if the entry comes from
texts read in a stretch of history, and the reads of the task lie in it too,
then so does all that the task installs, hands to a refresh or answers with.
-/

/-- A rulebook comes from a text of the tenant read in a stretch of history. -/
def Rulebook.ReadIn
    (tenant : String)
    (stretch : List Occurrence)
    (rulebook : Rulebook) : Prop :=
  ∃ reader text,
    ⟨reader, .loaded tenant (.ok text)⟩ ∈ stretch ∧
      Rulebook.ofText text = .ok rulebook

theorem Rulebook.ReadIn.mono
    {tenant : String}
    {stretch longer : List Occurrence}
    {rulebook : Rulebook}
    (included : stretch ⊆ longer)
    (readIn : rulebook.ReadIn tenant stretch) :
    rulebook.ReadIn tenant longer := by
  obtain ⟨reader, text, member, compiled⟩ := readIn
  exact ⟨reader, text, included member, compiled⟩

namespace Task

/-- The tenant that a get or a refresh is about. -/
def tenant? : Task → Option String
  | starting (.get tenant) | timed tenant _ | configured tenant _ _
  | answering tenant _ => some tenant
  | deciding _ _ reload | loading _ reload | resolving _ reload _
  | stamping _ reload _ | installing _ reload _ _ => some reload.tenant
  | _ => none

/-- Whatever a task holds of its tenant was read in a stretch of history. -/
def ReadIn (tenant : String) (stretch : List Occurrence) : Task → Prop
  | deciding _ _ reload | loading _ reload =>
      ∀ existing ∈ reload.existing?, existing.rulebook.ReadIn tenant stretch
  | resolving _ reload text =>
      (∀ existing ∈ reload.existing?, existing.rulebook.ReadIn tenant stretch) ∧
        ∃ reader, ⟨reader, .loaded tenant (.ok text)⟩ ∈ stretch
  | stamping _ _ rulebook | installing _ _ rulebook _ =>
      rulebook.ReadIn tenant stretch
  | answering _ result =>
      ∀ rulebook, result = .ok rulebook → rulebook.ReadIn tenant stretch
  | _ => True

theorem tenant?_of_reload?
    {task : Task}
    {reload : Reload}
    (takes : task.reload? = some reload) :
    task.tenant? = some reload.tenant := by
  cases task <;> cases takes <;> rfl

theorem ReadIn.mono
    {tenant : String}
    {stretch longer : List Occurrence}
    {task : Task}
    (included : stretch ⊆ longer)
    (readIn : task.ReadIn tenant stretch) :
    task.ReadIn tenant longer := by
  cases task with
  | deciding | loading =>
      exact fun existing found => (readIn existing found).mono included
  | resolving role reload text =>
      obtain ⟨existingRead, reader, member⟩ := readIn
      exact ⟨fun existing found => (existingRead existing found).mono included,
        reader, included member⟩
  | stamping | installing => exact Rulebook.ReadIn.mono included readIn
  | answering tenant result =>
      exact fun rulebook obtained => (readIn rulebook obtained).mono included
  | _ => trivial

namespace Leads

variable {service : Service} {task : Task} {effect : Effect} {tenant : String}

/-- A task stays with its tenant. -/
theorem tenant?_next
    {next : Task}
    (leads : task.Leads service effect)
    (goesOn : effect.next? = some next)
    (serves : task.tenant? = some tenant) :
    next.tenant? = some tenant := by
  cases leads with
  | unloaded role | fail role | install role =>
      cases role <;> cases goesOn
      exact serves
  | _ => first | (cases goesOn; done) | (cases goesOn; exact serves)

/--
A task whose holdings were read in a stretch of history goes on with holdings
read in that stretch, its own step included.
-/
theorem readIn_next
    {next : Task}
    {number : Nat}
    {stretch : List Occurrence}
    (leads : task.Leads service effect)
    (goesOn : effect.next? = some next)
    (serves : task.tenant? = some tenant)
    (readIn : task.ReadIn tenant stretch)
    (cachedReadIn :
      ∀ cached,
        service.cache.cached.get? tenant = some cached →
          cached.rulebook.ReadIn tenant stretch) :
    next.ReadIn tenant (stretch ++ effect.event?.toList.map (⟨number, ·⟩)) := by
  have included := List.subset_append_left stretch
    (effect.event?.toList.map (⟨number, ·⟩ : Event → Occurrence))
  cases leads with
  | observe other now lifetimes =>
      cases goesOn
      cases serves
      exact fun cached found => (cachedReadIn cached found).mono included
  | serve found | refresh found =>
      cases goesOn
      intro rulebook obtained
      cases obtained
      exact (readIn _ found).mono included
  | miss =>
      cases goesOn
      exact fun existing found => (readIn existing found).mono included
  | @loaded reload text role success =>
      cases goesOn
      cases serves
      refine ⟨fun existing found => (readIn existing found).mono included, number, ?_⟩
      exact List.mem_append_right stretch (List.mem_singleton.mpr rfl)
  | unloaded role =>
      cases role <;> cases goesOn
      exact fun rulebook obtained => nomatch obtained
  | revalidate role found same =>
      cases goesOn
      exact (readIn.1 _ found).mono included
  | @recompile text rulebook role reload compiled =>
      cases goesOn
      obtain ⟨reader, member⟩ := readIn.2
      exact ⟨reader, text, included member, compiled⟩
  | fail role =>
      cases role <;> cases goesOn
      exact fun rulebook obtained => nomatch obtained
  | stamp =>
      cases goesOn
      exact Rulebook.ReadIn.mono included readIn
  | install role reload rulebook now =>
      cases role <;> cases goesOn
      intro obtained same
      cases same
      exact Rulebook.ReadIn.mono included readIn
  | _ => first | (cases goesOn; done) | (cases goesOn; trivial)

/-- A refresh holds what was read of the get that starts it. -/
theorem readIn_refresh
    {reload : Reload}
    {stretch : List Occurrence}
    (leads : task.Leads service effect)
    (refreshed : effect.refresh? = some reload)
    (readIn : task.ReadIn tenant stretch) :
    (Task.loading .background reload).ReadIn tenant stretch := by
  cases leads <;> cases refreshed
  exact readIn

/-- An entry is as it was, or a task installs it in its own generation. -/
theorem cached_after
    {cached : CachedRulebook}
    (leads : task.Leads service effect)
    (present : effect.service.cache.cached.get? tenant = some cached) :
    service.cache.cached.get? tenant = some cached ∨
      ∃ role reload now,
        task = .installing role reload cached.rulebook now ∧
          reload.tenant = tenant ∧
            reload.generation = service.cache.generation tenant := by
  cases leads with
  | invalidate other =>
      refine .inl ?_
      rw [Service.withCache, Cache.get?_cached_invalidate] at present
      split at present
      · cases present
      · exact present
  | dropAll => cases present
  | install role reload rulebook now =>
      simp only [Service.withCache, Cache.install] at present
      split at present
      · rename_i sameGeneration
        rw [TenantMap.get?_insert] at present
        split at present
        · rename_i sameTenant
          cases present
          subst sameTenant
          exact .inr ⟨role, reload, now, rfl, rfl, sameGeneration.symm⟩
        · exact .inl present
      · exact .inl present
  | replaced other text invalidate =>
      refine .inl ?_
      cases invalidate with
      | false => exact present
      | true =>
          simp only [Service.withCache, if_true, Cache.get?_cached_invalidate] at present
          split at present
          · cases present
          · exact present
  | _ => exact .inl present

/-- Only a get that looks its tenant up tells of it. -/
theorem of_observed
    (leads : task.Leads service effect)
    (happened : effect.event? = some (.observed tenant)) :
    ∃ now lifetimes, task = .configured tenant now lifetimes := by
  cases leads <;> cases happened
  exact ⟨_, _, rfl⟩

/-- Only a get that answers tells what it obtained. -/
theorem of_obtained
    {result : Except LendingError Rulebook}
    (leads : task.Leads service effect)
    (happened : effect.event? = some (.obtained tenant result)) :
    task = .answering tenant result := by
  cases leads <;> cases happened
  rfl

end Leads

end Task

end LendingRules
