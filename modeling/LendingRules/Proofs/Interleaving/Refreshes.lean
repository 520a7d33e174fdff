import LendingRules.Proofs.Interleaving.Serials

namespace LendingRules

/-!
# One refresh for each entry

A get starts a refresh of the entry that it found only when its serial is not yet among
those of the refreshed ones, and adds it there in the same step. So as long as the threads
of refreshes start, no entry is refreshed twice, whether it is still in the cache or not.
-/

namespace Task

/-- Whether a task refreshes the entry with a serial in the background. -/
def refreshes (serial : Nat) (task : Task) : Bool :=
  task.isBackground &&
    task.reload?.any fun reload => reload.existing?.any fun entry => entry.serial = serial

namespace Leads

variable {service : Service} {task : Task} {effect : Effect}

/--
A step starts no refresh and leaves the refreshed entries as they are, or it starts that
of the entry its task has found, which is one more.
-/
theorem refresh_cases (leads : task.Leads service effect) :
    (effect.refresh? = none ∧
        effect.service.cache.refreshed = service.cache.refreshed ∧
        effect.service.cache.refreshes = service.cache.refreshes) ∨
      ∃ reload entry,
        effect.refresh? = some reload ∧
          task.reload? = some reload ∧
          reload.existing? = some entry ∧
          entry.serial ∉ service.cache.refreshed ∧
          effect.service.cache.refreshed = entry.serial :: service.cache.refreshed ∧
          effect.service.cache.refreshes = service.cache.refreshes + 1 := by
  cases leads with
  | refresh found stale unclaimed =>
      exact .inr ⟨_, _, rfl, rfl, found, unclaimed, rfl, rfl⟩
  | replaced tenant text invalidates =>
      cases invalidates <;> exact .inl ⟨rfl, rfl, rfl⟩
  | install role reload rulebook now =>
      refine .inl ⟨rfl, ?_, ?_⟩ <;>
        · simp only [Service.withCache, Cache.install, Cache.refreshes]
          split <;> rfl
  | _ => exact .inl ⟨rfl, rfl, rfl⟩

/-- A task refreshes an entry after a step only if it did so before. -/
theorem refreshes_next
    {next : Task}
    {serial : Nat}
    (leads : task.Leads service effect)
    (goesOn : effect.next? = some next)
    (refreshesNext : next.refreshes serial) :
    task.refreshes serial := by
  obtain ⟨background, found⟩ := Bool.and_eq_true_iff.mp refreshesNext
  rw [(leads.further goesOn).2] at background
  obtain ⟨reload, takes, same⟩ := (Option.any_eq_true _ _).mp found
  rcases leads.reload?_next goesOn takes with took | ⟨⟨now, lifetimes, rfl⟩, -⟩
  · simp only [refreshes, background, took, Option.any_some, same, Bool.and_self]
  · cases background

end Leads

/-- A task in the background refreshes some entry, as long as it has done so before. -/
theorem Leads.exists_refreshes_next
    {service : Service}
    {task next : Task}
    {effect : Effect}
    (leads : task.Leads service effect)
    (goesOn : effect.next? = some next)
    (isBackground : next.isBackground)
    (before : task.isBackground → ∃ serial, task.refreshes serial) :
    ∃ serial, next.refreshes serial := by
  cases leads with
  | loaded role | unloaded role | revalidate role | recompile role | fail role | stamp role
  | install role =>
      cases role <;> cases goesOn <;> first | exact before rfl | cases isBackground
  | _ => cases goesOn <;> cases isBackground

/-- A refresh that has just started refreshes the entry that its get has found. -/
theorem refreshes_loading_iff {reload : Reload} {serial : Nat} :
    (loading .background reload).refreshes serial ↔
      ∃ entry, reload.existing? = some entry ∧ entry.serial = serial := by
  simp [refreshes, isBackground, reload?, Option.any_eq_true]

end Task

namespace Cache

/--
The refreshes started are counted, each under the serial of its entry, and of all tasks
at most one has been the refresh of an entry.
-/
structure RefreshesOnce (cache : Cache) (refreshers : Nat → Set Nat) : Prop where
  claimed : ∀ serial number, number ∈ refreshers serial → serial ∈ cache.refreshed
  subsingleton : ∀ serial, (refreshers serial).Subsingleton
  nodup : cache.refreshed.Nodup
  serial_lt : ∀ serial ∈ cache.refreshed, serial < cache.installs
  length : cache.refreshed.length = cache.refreshes

namespace RefreshesOnce

variable {cache next : Cache} {refreshers refreshersNext : Nat → Set Nat}

/-- No entry has been refreshed twice when nobody has started a refresh since. -/
theorem mono
    (once : cache.RefreshesOnce refreshers)
    (noNew : ∀ serial, refreshersNext serial ⊆ refreshers serial)
    (sameRefreshed : next.refreshed = cache.refreshed)
    (sameCount : next.refreshes = cache.refreshes)
    (more : cache.installs ≤ next.installs) :
    next.RefreshesOnce refreshersNext := by
  constructor
  case claimed =>
    intro serial number isIn
    rw [sameRefreshed]
    exact once.claimed serial number (noNew serial isIn)
  case subsingleton => exact fun serial => (once.subsingleton serial).anti (noNew serial)
  case nodup => exact sameRefreshed ▸ once.nodup
  case serial_lt =>
    intro serial member
    rw [sameRefreshed] at member
    exact (once.serial_lt serial member).trans_le more
  case length => rw [sameRefreshed, sameCount, once.length]

/-- No entry has been refreshed twice when one that had not been is refreshed now. -/
theorem claim
    {claimed number : Nat}
    (once : cache.RefreshesOnce refreshers)
    (unclaimed : claimed ∉ cache.refreshed)
    (installed : claimed < cache.installs)
    (oneNew :
      ∀ serial, refreshersNext serial ⊆
        refreshers serial ∪ {other | other = number ∧ serial = claimed})
    (oneRefreshed : next.refreshed = claimed :: cache.refreshed)
    (oneCount : next.refreshes = cache.refreshes + 1)
    (more : cache.installs ≤ next.installs) :
    next.RefreshesOnce refreshersNext := by
  constructor
  case claimed =>
    intro serial other isIn
    rw [oneRefreshed]
    rcases oneNew serial isIn with before | ⟨-, rfl⟩
    · exact List.mem_cons_of_mem _ (once.claimed serial other before)
    · exact List.mem_cons_self
  case subsingleton =>
    intro serial first isFirst second isSecond
    rcases oneNew serial isFirst with firstBefore | ⟨rfl, same⟩ <;>
      rcases oneNew serial isSecond with secondBefore | ⟨rfl, sameToo⟩
    · exact once.subsingleton serial firstBefore secondBefore
    · exact absurd (once.claimed serial first firstBefore) (sameToo ▸ unclaimed)
    · exact absurd (once.claimed serial second secondBefore) (same ▸ unclaimed)
    · rfl
  case nodup => exact oneRefreshed ▸ once.nodup.cons unclaimed
  case serial_lt =>
    intro serial member
    rw [oneRefreshed] at member
    rcases List.mem_cons.mp member with rfl | before
    · exact installed.trans_le more
    · exact (once.serial_lt serial before).trans_le more
  case length => rw [oneRefreshed, oneCount, List.length_cons, once.length]

/-- There are no more refreshes than installed entries. -/
theorem refreshes_le (once : cache.RefreshesOnce refreshers) :
    cache.refreshes ≤ cache.installs := by
  have subset : cache.refreshed ⊆ List.range cache.installs := fun serial member =>
    List.mem_range.mpr (once.serial_lt serial member)
  calc
    cache.refreshes = cache.refreshed.length := once.length.symm
    _ ≤ (List.range cache.installs).length :=
      (List.subperm_of_subset once.nodup subset).length_le
    _ = cache.installs := List.length_range

end RefreshesOnce

end Cache

namespace World

variable {world : World} {moves : List Move}

/-- All tasks in the background refresh some entry. -/
def RefreshesEntries (world : World) : Prop :=
  ∀ number task,
    world.tasks number = some task → task.isBackground → ∃ serial, task.refreshes serial

theorem RefreshesEntries.of_leads
    {next : World}
    (leads : world.Leads next)
    (refreshes : world.RefreshesEntries) :
    next.RefreshesEntries := by
  intro query now isNow isBackground
  cases leads with
  | idle | advanced | outage => exact refreshes query now isNow isBackground
  | abandoned => exact refreshes query now (task_of_giveUp isNow) isBackground
  | started =>
      rcases task_of_startTask isNow with ⟨-, rfl⟩ | before
      · cases isBackground
      · exact refreshes query now before isBackground
  | performed underWay leads =>
      rcases task_of_settle isNow with ⟨-, reload, started, rfl⟩ | ⟨-, goesOn⟩ | ⟨-, before⟩
      · rcases leads.refresh_cases with ⟨noRefresh, -⟩ | ⟨other, entry, otherStarted, -, found, -⟩
        · cases noRefresh.symm.trans started
        · cases started.symm.trans otherStarted
          exact ⟨entry.serial, Task.refreshes_loading_iff.mpr ⟨entry, found, rfl⟩⟩
      · exact leads.exists_refreshes_next goesOn isBackground (refreshes _ _ underWay)
      · exact refreshes query now before isBackground

/-- Whatever reloads in the background refreshes an entry that has been installed. -/
theorem exists_installed_of_isBackground
    {number : Nat}
    (lifetimes : Lifetimes)
    (texts : List (String × String))
    (hasBeen : number ∈ (start lifetimes texts).reached moves Task.isBackground) :
    ∃ tenant entry,
      (start lifetimes texts).Installed moves tenant entry ∧
        number ∈ (start lifetimes texts).reached moves (Task.refreshes entry.serial) := by
  obtain ⟨earlier, isPrefix, task, underWay, isBackground⟩ := hasBeen
  have refreshesEntries : ((start lifetimes texts).run earlier).RefreshesEntries :=
    run_induction (fun _ _ => .of_leads) (fun _ _ never => nomatch never) earlier
  obtain ⟨serial, refreshes⟩ := refreshesEntries number task underWay isBackground
  obtain ⟨reload, takes, found⟩ :=
    (Option.any_eq_true _ _).mp (Bool.and_eq_true_iff.mp refreshes).2
  obtain ⟨entry, existing, same⟩ := (Option.any_eq_true _ _).mp found
  cases of_decide_eq_true same
  have installed :=
    finds_start lifetimes texts earlier number task reload entry underWay takes existing
  exact ⟨reload.tenant, entry, installed.mono isPrefix, earlier, isPrefix, task, underWay,
    refreshes⟩

/-- Without a step of a task no entry gets a refresh, provided that none is given up. -/
theorem step_cases_of_starts
    (world : World)
    {move : Move}
    (threadStarts : ∀ number, move ≠ .abandon number) :
    (world.step move).service.cache = world.service.cache ∧
        (∀ serial,
          (world.step move).inStage (Task.refreshes serial) ⊆
            world.inStage (Task.refreshes serial)) ∨
      ∃ number task effect,
        world.tasks number = some task ∧
          task.Leads world.service effect ∧
          world.step move = world.settle number effect := by
  cases move with
  | start operation =>
      refine .inl ⟨rfl, fun serial number isIn => ?_⟩
      obtain ⟨task, underWay, refreshes⟩ := isIn
      rcases task_of_startTask underWay with ⟨-, rfl⟩ | before
      · cases refreshes
      · exact ⟨task, before, refreshes⟩
  | perform number =>
      simp only [step, performTask]
      split
      · exact .inl ⟨rfl, fun _ _ isIn => isIn⟩
      · rename_i task underWay
        exact .inr ⟨number, task, _, underWay, task.leads_advance world.service, rfl⟩
  | abandon number => exact absurd rfl (threadStarts number)
  | advance | setOutage => exact .inl ⟨rfl, fun _ _ isIn => isIn⟩

/-- Whoever refreshes an entry after a step has done so before, or has just been started. -/
theorem mem_reached_refreshes_settle
    {number query serial : Nat}
    {task : Task}
    {effect : Effect}
    (underWay : (world.run moves).tasks number = some task)
    (leads : task.Leads (world.run moves).service effect)
    (isIn :
      query ∈ world.reached moves (Task.refreshes serial) ∪
        ((world.run moves).settle number effect).inStage (Task.refreshes serial)) :
    query ∈ world.reached moves (Task.refreshes serial) ∨
      query = (world.run moves).nextTask ∧
        ∃ reload, effect.refresh? = some reload ∧
          (Task.loading .background reload).refreshes serial := by
  rcases isIn with before | ⟨now, isNow, refreshes⟩
  · exact .inl before
  · have under {task : Task} (isTask : (world.run moves).tasks query = some task)
        (refreshes : task.refreshes serial) :
        query ∈ world.reached moves (Task.refreshes serial) :=
      world.inStage_subset_reached moves _ ⟨task, isTask, refreshes⟩
    rcases task_of_settle isNow with ⟨rfl, reload, refreshed, rfl⟩ | ⟨rfl, goesOn⟩ | ⟨-, before⟩
    · exact .inr ⟨rfl, reload, refreshed, refreshes⟩
    · exact .inl (under underWay (leads.refreshes_next goesOn refreshes))
    · exact .inl (under before refreshes)

/-- One more move starts no second refresh of an entry. -/
theorem refreshesOnce_concat
    {move : Move}
    (once :
      (world.run moves).service.cache.RefreshesOnce fun serial =>
        world.reached moves (Task.refreshes serial))
    (identified : world.Identified moves)
    (finds : world.Finds moves)
    (threadStarts : ∀ number, move ≠ .abandon number) :
    (world.run (moves ++ [move])).service.cache.RefreshesOnce fun serial =>
      world.reached (moves ++ [move]) (Task.refreshes serial) := by
  simp only [reached_concat, run_concat]
  rcases (world.run moves).step_cases_of_starts threadStarts with
    ⟨sameCache, noNew⟩ | ⟨number, task, effect, underWay, leads, settled⟩
  · rw [sameCache]
    refine once.mono (fun serial => ?_) rfl rfl (Nat.le_refl _)
    exact Set.union_subset (fun _ before => before)
      ((noNew serial).trans (world.inStage_subset_reached moves _))
  · rw [settled]
    rcases leads.refresh_cases with
      ⟨noRefresh, sameRefreshed, sameCount⟩ |
        ⟨reload, entry, started, took, found, unclaimed, oneRefreshed, oneCount⟩
    · refine once.mono (fun serial query isIn => ?_) sameRefreshed sameCount leads.installs_le
      rcases mem_reached_refreshes_settle underWay leads isIn with before | ⟨-, reload, started, -⟩
      · exact before
      · cases noRefresh.symm.trans started
    · have installed := finds number task reload entry underWay took found
      have oneNew (serial : Nat) :
          world.reached moves (Task.refreshes serial) ∪
              ((world.run moves).settle number effect).inStage (Task.refreshes serial) ⊆
            world.reached moves (Task.refreshes serial) ∪
              {other | other = (world.run moves).nextTask ∧ serial = entry.serial} := by
        intro query isIn
        rcases mem_reached_refreshes_settle underWay leads isIn with
          before | ⟨isNext, other, otherStarted, refreshes⟩
        · exact .inl before
        · cases started.symm.trans otherStarted
          obtain ⟨otherEntry, otherFound, same⟩ := Task.refreshes_loading_iff.mp refreshes
          cases found.symm.trans otherFound
          exact .inr ⟨isNext, same.symm⟩
      exact once.claim unclaimed (identified.serial_lt _ _ installed) oneNew oneRefreshed oneCount
        leads.installs_le

theorem refreshesOnce_start
    {moves : List Move}
    (lifetimes : Lifetimes)
    (texts : List (String × String))
    (threadsStart : ∀ number, .abandon number ∉ moves) :
    ((start lifetimes texts).run moves).service.cache.RefreshesOnce fun serial =>
      (start lifetimes texts).reached moves (Task.refreshes serial) := by
  induction moves using List.reverseRecOn with
  | nil =>
      have none (serial : Nat) :
          (start lifetimes texts).reached [] (Task.refreshes serial) = ∅ := by
        rw [reached_nil, inStage_start]
      simp only [none]
      constructor
      case claimed => exact fun _ _ member => member.elim
      case subsingleton => exact fun _ => Set.subsingleton_empty
      case nodup => exact List.nodup_nil
      case serial_lt => exact fun _ member => absurd member List.not_mem_nil
      case length => rfl
  | append_singleton earlier move inductionHypothesis =>
      refine refreshesOnce_concat (inductionHypothesis fun number member => ?_)
        (identified_start lifetimes texts earlier) (finds_start lifetimes texts earlier) ?_
      · exact threadsStart number (List.mem_append_left [move] member)
      · rintro number rfl
        exact threadsStart number (List.mem_append_right earlier (List.mem_singleton_self _))

end World

end LendingRules
