import LendingRules.Proofs.Interleaving.Generation
import LendingRules.Proofs.Interleaving.Stages

namespace LendingRules

/-!
# Serials of entries

Each entry that is installed gets the next serial, which tells it from every other entry
of the run, also from those that it replaces and those that were made invalid. Whatever
a task has found in the cache is an entry that had been installed by then.
-/

/-- An invalidation brings nothing into the cache. -/
theorem Cache.cached_of_invalidate
    {tenant other : String}
    {entry : CachedRulebook}
    (cache : Cache)
    (present : (cache.invalidate other).cached.get? tenant = some entry) :
    cache.cached.get? tenant = some entry := by
  rw [get?_cached_invalidate] at present
  split at present
  · cases present
  · exact present

namespace Task.Leads

variable {service : Service} {task : Task} {effect : Effect}

/-- A step installs nothing new, or it installs one entry, which bears the next serial. -/
theorem installs_cases (leads : task.Leads service effect) :
    (effect.service.cache.installs = service.cache.installs ∧
        ∀ tenant entry, effect.service.cache.cached.get? tenant = some entry →
          service.cache.cached.get? tenant = some entry) ∨
      ∃ role reload rulebook now,
        task = .installing role reload rulebook now ∧
          effect.service.cache.installs = service.cache.installs + 1 ∧
          effect.service.cache.cached =
            service.cache.cached.insert reload.tenant
              { rulebook, loadedAt := now, serial := service.cache.installs } := by
  cases leads with
  | invalidate other =>
      exact .inl ⟨rfl, fun _ _ => service.cache.cached_of_invalidate⟩
  | dropAll =>
      refine .inl ⟨rfl, fun tenant entry present => ?_⟩
      rw [Service.withCache, Cache.dropAll, TenantMap.get?_empty] at present
      cases present
  | replaced other text invalidates =>
      cases invalidates with
      | false => exact .inl ⟨rfl, fun _ _ present => present⟩
      | true => exact .inl ⟨rfl, fun _ _ => service.cache.cached_of_invalidate⟩
  | install role reload rulebook now =>
      by_cases current : service.cache.generation reload.tenant = reload.generation
      · refine .inr ⟨role, reload, rulebook, now, rfl, ?_, ?_⟩
        · rw [Service.withCache, Cache.install, if_pos current]
        · rw [Service.withCache, Cache.install, if_pos current]
      · rw [Service.withCache, Cache.install, if_neg current]
        exact .inl ⟨rfl, fun _ _ present => present⟩
  | _ => exact .inl ⟨rfl, fun _ _ present => present⟩

theorem installs_le (leads : task.Leads service effect) :
    service.cache.installs ≤ effect.service.cache.installs := by
  rcases leads.installs_cases with ⟨same, -⟩ | ⟨_, _, _, _, -, more, -⟩
  · exact same.ge
  · exact more ▸ Nat.le_succ _

end Task.Leads

namespace World

variable {world : World} {moves : List Move}

/-- A tenant had an entry in the cache at some point of a run. -/
def Installed
    (world : World)
    (moves : List Move)
    (tenant : String)
    (entry : CachedRulebook) : Prop :=
  ∃ earlier, earlier <+: moves ∧
    (world.run earlier).service.cache.cached.get? tenant = some entry

theorem Installed.mono
    {earlier : List Move}
    {tenant : String}
    {entry : CachedRulebook}
    (isPrefix : earlier <+: moves)
    (installed : world.Installed earlier tenant entry) :
    world.Installed moves tenant entry := by
  obtain ⟨first, isFirst, present⟩ := installed
  exact ⟨first, isFirst.trans isPrefix, present⟩

/-- After one more move those entries have been installed that had been, or are there now. -/
theorem installed_concat
    {move : Move}
    {tenant : String}
    {entry : CachedRulebook}
    (installed : world.Installed (moves ++ [move]) tenant entry) :
    world.Installed moves tenant entry ∨
      ((world.run moves).step move).service.cache.cached.get? tenant = some entry := by
  obtain ⟨earlier, isPrefix, present⟩ := installed
  rcases List.prefix_concat_iff.mp isPrefix with rfl | isPrefix
  · rw [run_concat] at present
    exact .inr present
  · exact .inl ⟨earlier, isPrefix, present⟩

/--
A way to go on adds no entry, or it is the step by which a task installs one, which
bears the next serial.
-/
theorem Leads.installs_cases {next : World} (leads : world.Leads next) :
    (next.service.cache.installs = world.service.cache.installs ∧
        ∀ tenant entry, next.service.cache.cached.get? tenant = some entry →
          world.service.cache.cached.get? tenant = some entry) ∨
      ∃ number role reload rulebook now,
        world.tasks number = some (.installing role reload rulebook now) ∧
          (∀ task, next.tasks number = some task →
            (Task.installing role reload rulebook now).milestone < task.milestone) ∧
          next.service.cache.installs = world.service.cache.installs + 1 ∧
          next.service.cache.cached =
            world.service.cache.cached.insert reload.tenant
              { rulebook, loadedAt := now, serial := world.service.cache.installs } := by
  cases leads with
  | @performed number task effect underWay leads =>
      rcases leads.installs_cases with
        noNew | ⟨role, reload, rulebook, now, rfl, one, inserted⟩
      · exact .inl noNew
      · refine .inr ⟨number, role, reload, rulebook, now, underWay, ?_, one, inserted⟩
        intro task isNow
        rcases task_of_settle isNow with ⟨-, other, refreshed, -⟩ | ⟨-, goesOn⟩ | ⟨different, -⟩
        · cases leads
          cases refreshed
        · exact (leads.further goesOn).1
        · exact absurd rfl different
  | @abandoned number reload underWay =>
      unfold giveUp
      cases reload.existing? <;> exact .inl ⟨rfl, fun _ _ present => present⟩
  | _ => exact .inl ⟨rfl, fun _ _ present => present⟩

/-- The serial of an entry names it among all that were ever installed. -/
structure Identified (world : World) (moves : List Move) : Prop where
  serial_lt :
    ∀ tenant entry, world.Installed moves tenant entry →
      entry.serial < (world.run moves).service.cache.installs
  unique :
    ∀ tenant entry other otherEntry,
      world.Installed moves tenant entry →
        world.Installed moves other otherEntry →
          entry.serial = otherEntry.serial → tenant = other ∧ entry = otherEntry

theorem Identified.concat (identified : world.Identified moves) (move : Move) :
    world.Identified (moves ++ [move]) := by
  rcases ((world.run moves).leads_step move).installs_cases with
    ⟨same, noNew⟩ | ⟨-, -, reload, rulebook, now, -, -, one, inserted⟩
  · have old {tenant : String} {entry : CachedRulebook}
        (installed : world.Installed (moves ++ [move]) tenant entry) :
        world.Installed moves tenant entry := by
      rcases installed_concat installed with before | present
      · exact before
      · exact ⟨moves, List.prefix_rfl, noNew tenant entry present⟩
    constructor
    · intro tenant entry installed
      rw [run_concat]
      exact (identified.serial_lt tenant entry (old installed)).trans_le same.ge
    · intro tenant entry other otherEntry installed otherInstalled
      exact identified.unique tenant entry other otherEntry (old installed) (old otherInstalled)
  · have cases {tenant : String} {entry : CachedRulebook}
        (installed : world.Installed (moves ++ [move]) tenant entry) :
        world.Installed moves tenant entry ∨
          tenant = reload.tenant ∧
            entry =
              { rulebook, loadedAt := now, serial := (world.run moves).service.cache.installs } := by
      rcases installed_concat installed with before | present
      · exact .inl before
      · rw [inserted, TenantMap.get?_insert] at present
        split at present
        · rename_i same
          exact .inr ⟨same, (Option.some.inj present).symm⟩
        · exact .inl ⟨moves, List.prefix_rfl, present⟩
    constructor
    · intro tenant entry installed
      rw [run_concat, one]
      rcases cases installed with before | ⟨-, rfl⟩
      · exact (identified.serial_lt tenant entry before).trans (Nat.lt_succ_self _)
      · exact Nat.lt_succ_self _
    · intro tenant entry other otherEntry installed otherInstalled same
      rcases cases installed with before | ⟨rfl, rfl⟩ <;>
        rcases cases otherInstalled with otherBefore | ⟨rfl, rfl⟩
      · exact identified.unique tenant entry other otherEntry before otherBefore same
      · exact absurd (identified.serial_lt tenant entry before) (Nat.not_lt.mpr same.ge)
      · exact absurd (identified.serial_lt other otherEntry otherBefore) (Nat.not_lt.mpr same.le)
      · exact ⟨rfl, rfl⟩

theorem identified_start
    (lifetimes : Lifetimes)
    (texts : List (String × String))
    (moves : List Move) :
    (start lifetimes texts).Identified moves := by
  induction moves using List.reverseRecOn with
  | nil =>
      have none {tenant : String} {entry : CachedRulebook} :
          ¬ (start lifetimes texts).Installed [] tenant entry := by
        rintro ⟨earlier, isPrefix, present⟩
        cases List.prefix_nil.mp isPrefix
        cases present
      exact ⟨fun _ _ installed => absurd installed none,
        fun _ _ _ _ installed => absurd installed none⟩
  | append_singleton earlier move inductionHypothesis => exact inductionHypothesis.concat move

/-- Whatever a task has found had been installed for the tenant that it is about. -/
def Finds (world : World) (moves : List Move) : Prop :=
  ∀ number task reload entry,
    (world.run moves).tasks number = some task →
      task.reload? = some reload →
        reload.existing? = some entry →
          world.Installed moves reload.tenant entry

theorem Finds.concat (finds : world.Finds moves) (move : Move) :
    world.Finds (moves ++ [move]) := by
  intro query now reload entry isNow takes found
  rw [run_concat] at isNow
  -- Whoever has found something before has found what had been installed by then.
  have before
      {number : Nat}
      {task : Task}
      (underWay : (world.run moves).tasks number = some task)
      (took : task.reload? = some reload) :
      world.Installed (moves ++ [move]) reload.tenant entry :=
    (finds number task reload entry underWay took found).mono (List.prefix_append _ _)
  have leads := (world.run moves).leads_step move
  generalize (world.run moves).step move = next at isNow leads
  cases leads with
  | idle | advanced | outage => exact before isNow takes
  | abandoned => exact before (task_of_giveUp isNow) takes
  | started =>
      rcases task_of_startTask isNow with ⟨-, rfl⟩ | underWay
      · cases takes
      · exact before underWay takes
  | performed underWay leads =>
      rcases task_of_settle isNow with ⟨-, started, refreshed, rfl⟩ | ⟨rfl, goesOn⟩ | ⟨-, other⟩
      · cases takes
        exact before underWay (leads.reload?_of_refresh refreshed)
      · rcases leads.reload?_next goesOn takes with took | ⟨-, observes⟩
        · exact before underWay took
        · refine ⟨moves, List.prefix_append _ _, ?_⟩
          rw [observes] at found
          exact found
      · exact before other takes

theorem finds_start
    (lifetimes : Lifetimes)
    (texts : List (String × String))
    (moves : List Move) :
    (start lifetimes texts).Finds moves := by
  induction moves using List.reverseRecOn with
  | nil =>
      intro number task reload entry underWay
      cases underWay
  | append_singleton earlier move inductionHypothesis => exact inductionHypothesis.concat move

end World

end LendingRules
