import LendingRules.Proofs.Interleaving.EntryAge
import LendingRules.Proofs.Interleaving.Loads
import LendingRules.Proofs.Interleaving.Refreshes

namespace LendingRules

/-!
# What the counts of the cache count

Each count is raised in the very steps that bring a task to some stage, so at any point of
a run it is the number of the tasks that have been there: of the gets that are past
their lookup, of the reloads, and of those reloads that have got a rulebook. A lookup is
over with the decision for a hit or a miss, one step after the cache was observed. An
entry is installed only when a reload with a rulebook is over, and refreshed once at most.

A get counts its hit, uses up the refresh of the entry and starts it in one step. No task
reads a count, so none can tell this from doing so one after the other.
-/

@[simp] theorem Cache.counts_install
    (cache : Cache)
    (reload : Reload)
    (rulebook : Rulebook)
    (now : Nat) :
    (cache.install reload rulebook now).counts = cache.counts := by
  unfold install
  split <;> rfl

namespace Task

/-- Whether a task is a get that has done nothing yet. -/
def isGet : Task → Bool
  | starting (.get _) => true
  | _ => false

/-- Whether a task is a get, however far it has come. -/
def isOfGet : Task → Bool
  | starting (.get _) | timed .. | configured .. | deciding .. | loading .foreground _
  | resolving .foreground _ _ | stamping .foreground _ _ | installing .foreground _ _ _
  | answering .. => true
  | _ => false

/--
Whether a task is a get that has decided between a hit and a miss, and counted it.

A lookup takes two steps: the get observes what is cached for its tenant, and then
decides. A get between the two, which is `deciding` and has its `observed` event in
the history already, is not past its lookup, and no count has been raised for it yet.
-/
def isPastLookup : Task → Bool
  | loading .foreground _ | resolving .foreground _ _ | stamping .foreground _ _
  | installing .foreground _ _ _ | answering .. => true
  | _ => false

/-- Whether a task reloads, for a caller or in the background. -/
def isReload : Task → Bool
  | loading .. | resolving .. | stamping .. | installing .. => true
  | _ => false

/-- Whether a task reloads and has a compiled rulebook already. -/
def hasRulebook : Task → Bool
  | stamping .. | installing .. => true
  | _ => false

theorem isOfGet_of_isGet {task : Task} (isGet : task.isGet) : task.isOfGet := by
  cases task with
  | starting operation => cases operation <;> first | rfl | cases isGet
  | _ => cases isGet

theorem isOfGet_of_isPastLookup {task : Task} (past : task.isPastLookup) : task.isOfGet := by
  cases task with
  | loading role | resolving role | stamping role | installing role => cases role <;> exact past
  | answering => rfl
  | _ => cases past

theorem isReload_of_hasRulebook {task : Task} (obtained : task.hasRulebook) : task.isReload := by
  cases task <;> first | rfl | cases obtained

theorem isPastLookup_iff (task : Task) :
    task.isPastLookup ↔ 4 ≤ task.milestone ∧ task.isBackground = false := by
  cases task with
  | loading role | resolving role | stamping role | installing role =>
      cases role <;> simp [isPastLookup, milestone, isBackground]
  | _ => simp [isPastLookup, milestone, isBackground]

theorem isReload_iff (task : Task) :
    task.isReload ↔ 4 ≤ task.milestone ∧ task.milestone ≤ 7 := by
  cases task <;> simp [isReload, milestone]

theorem hasRulebook_iff (task : Task) :
    task.hasRulebook ↔ 6 ≤ task.milestone ∧ task.milestone ≤ 7 := by
  cases task <;> simp [hasRulebook, milestone]

theorem isStage_isPastLookup : IsStage isPastLookup := by
  intro first between last precedes _ isFirst _
  rw [isPastLookup_iff] at isFirst ⊢
  exact ⟨isFirst.1.trans precedes.milestone, precedes.isBackground.trans isFirst.2⟩

theorem isStage_isReload : IsStage isReload := by
  intro first between last precedes follows isFirst isLast
  rw [isReload_iff] at isFirst isLast ⊢
  exact ⟨isFirst.1.trans precedes.milestone, follows.milestone.trans isLast.2⟩

theorem isStage_isBackground : IsStage isBackground := by
  intro first between last precedes _ isFirst _
  rwa [precedes.isBackground]

theorem isStage_hasRulebook : IsStage hasRulebook := by
  intro first between last precedes follows isFirst isLast
  rw [hasRulebook_iff] at isFirst isLast ⊢
  exact ⟨isFirst.1.trans precedes.milestone, follows.milestone.trans isLast.2⟩

/-- A hit or a miss is counted for every get that goes past its lookup. -/
theorem counts_isPastLookup :
    World.Counts (fun counts => counts.hits + counts.misses) isPastLookup := by
  intro service task effect leads
  cases leads with
  | serve | refresh => exact Nat.add_right_comm _ 1 _
  | miss => rfl
  | loaded role | unloaded role | revalidate role | recompile role | fail role | stamp role =>
      cases role <;> rfl
  | install role reload rulebook now =>
      cases role <;> simp [Effect.newcomers, Service.withCache, ReloadRole.conclude?, isPastLookup]
  | replaced tenant text invalidates => cases invalidates <;> rfl
  | _ => rfl

/-- A miss or a refresh is counted for every reload that starts. -/
theorem counts_isReload :
    World.Counts (fun counts => counts.misses + counts.refreshes) isReload := by
  intro service task effect leads
  cases leads with
  | refresh => rfl
  | miss => exact Nat.add_right_comm _ 1 _
  | unloaded role | fail role => cases role <;> rfl
  | install role reload rulebook now =>
      cases role <;> simp [Effect.newcomers, Service.withCache, ReloadRole.conclude?, isReload]
  | replaced tenant text invalidates => cases invalidates <;> rfl
  | _ => rfl

/-- A refresh is counted for every reload that starts in the background. -/
theorem counts_isBackground : World.Counts CacheCounts.refreshes isBackground := by
  intro service task effect leads
  cases leads with
  | loaded role | unloaded role | revalidate role | recompile role | fail role | stamp role =>
      cases role <;> rfl
  | install role reload rulebook now =>
      cases role <;> simp [Effect.newcomers, Service.withCache, ReloadRole.conclude?, isBackground]
  | replaced tenant text invalidates => cases invalidates <;> rfl
  | _ => rfl

/-- A recompilation or a revalidation is counted for every reload that gets a rulebook. -/
theorem counts_hasRulebook :
    World.Counts (fun counts => counts.recompiles + counts.revalidations) hasRulebook := by
  intro service task effect leads
  cases leads with
  | revalidate => rfl
  | recompile => exact Nat.add_right_comm _ 1 _
  | unloaded role | fail role => cases role <;> rfl
  | install role reload rulebook now =>
      cases role <;> simp [Effect.newcomers, Service.withCache, ReloadRole.conclude?, hasRulebook]
  | replaced tenant text invalidates => cases invalidates <;> rfl
  | _ => rfl

/-- A get that goes on has been one before. -/
theorem Leads.isOfGet_of_next
    {service : Service}
    {task next : Task}
    {effect : Effect}
    (leads : task.Leads service effect)
    (goesOn : effect.next? = some next)
    (isOfGetNext : next.isOfGet) :
    task.isOfGet := by
  cases leads with
  | loaded role | unloaded role | revalidate role | recompile role | fail role | stamp role
  | install role =>
      cases role <;> cases goesOn <;> exact isOfGetNext
  | _ => cases goesOn <;> first | rfl | exact isOfGetNext

/-- A get is past its lookup, or its next step does not end it. -/
theorem Leads.exists_next_of_isOfGet
    {service : Service}
    {task : Task}
    {effect : Effect}
    (leads : task.Leads service effect)
    (isOfGet : task.isOfGet) :
    task.isPastLookup ∨ ∃ next, effect.next? = some next ∧ next.isOfGet := by
  cases leads with
  | get | configure | observe | serve | refresh | miss => exact .inr ⟨_, rfl, rfl⟩
  | loaded role | unloaded role | revalidate role | recompile role | fail role | stamp role
  | install role =>
      exact .inl (by cases role <;> exact isOfGet)
  | answer => exact .inl rfl
  | _ => cases isOfGet

end Task

namespace World

variable {world : World} {moves : List Move}

/-- Whoever is a get at some point of a run has been one that had done nothing yet. -/
theorem reached_isOfGet_subset
    (initially : world.inStage Task.isOfGet = ∅)
    (moves : List Move) :
    world.reached moves Task.isOfGet ⊆ world.reached moves Task.isGet := by
  induction moves using List.reverseRecOn with
  | nil =>
      rw [reached_nil, initially]
      exact Set.empty_subset _
  | append_singleton earlier move inductionHypothesis =>
      rw [reached_concat, reached_concat]
      refine Set.union_subset (inductionHypothesis.trans Set.subset_union_left) ?_
      intro query isIn
      rcases ((world.run earlier).leads_step move).enters isIn with
        before | ⟨rfl, operation, started, isOfGet⟩ |
          ⟨number, task, effect, underWay, leads, -, ⟨-, reload, -, isOfGet⟩ |
            ⟨rfl, next, goesOn, isOfGet⟩⟩
      · exact .inl (inductionHypothesis (world.inStage_subset_reached earlier _ before))
      · rw [started]
        refine .inr ⟨.starting operation, updateTask_same _ _ _, ?_⟩
        cases operation <;> exact isOfGet
      · cases isOfGet
      · have wasOfGet := leads.isOfGet_of_next goesOn isOfGet
        exact .inl (inductionHypothesis
          (world.inStage_subset_reached earlier _ ⟨task, underWay, wasOfGet⟩))

/-- A get that is under way remains so, unless it is past its lookup. -/
theorem Leads.isOfGet_next
    {next : World}
    {number : Nat}
    (leads : world.Leads next)
    (numbered : world.Numbered)
    (isOfGet : number ∈ world.inStage Task.isOfGet) :
    number ∈ world.inStage Task.isPastLookup ∨ number ∈ next.inStage Task.isOfGet := by
  obtain ⟨task, underWay, ofGet⟩ := isOfGet
  have isOld := numbered.tasks number task underWay
  cases leads with
  | idle | advanced | outage => exact .inr ⟨task, underWay, ofGet⟩
  | started operation =>
      exact .inr ⟨task, (updateTask_other isOld.ne _ _).trans underWay, ofGet⟩
  | @abandoned other reload otherUnderWay =>
      by_cases same : number = other
      · subst same
        cases underWay.symm.trans otherUnderWay
        cases ofGet
      · exact .inr ⟨task, (updateTask_other same _ _).trans underWay, ofGet⟩
  | @performed other performing effect otherUnderWay leads =>
      have otherIsOld := numbered.tasks other performing otherUnderWay
      by_cases same : number = other
      · subst same
        cases underWay.symm.trans otherUnderWay
        rcases leads.exists_next_of_isOfGet ofGet with past | ⟨next, goesOn, nextOfGet⟩
        · exact .inl ⟨task, underWay, past⟩
        · refine .inr ((mem_inStage_settle effect isOld).mpr (.inr (.inl ⟨rfl, ?_⟩)))
          rw [goesOn]
          exact nextOfGet
      · exact .inr ((mem_inStage_settle effect otherIsOld).mpr
          (.inr (.inr ⟨isOld.ne, same, task, underWay, ofGet⟩)))

/-- Every get is past its lookup, or is still under way. -/
theorem reached_isGet_subset (numbered : world.Numbered) (moves : List Move) :
    world.reached moves Task.isGet ⊆
      world.reached moves Task.isPastLookup ∪ (world.run moves).inStage Task.isOfGet := by
  have ofGet {world : World} : world.inStage Task.isGet ⊆ world.inStage Task.isOfGet := by
    rintro number ⟨task, underWay, isGet⟩
    exact ⟨task, underWay, Task.isOfGet_of_isGet isGet⟩
  induction moves using List.reverseRecOn with
  | nil =>
      rw [reached_nil]
      exact ofGet.trans Set.subset_union_right
  | append_singleton earlier move inductionHypothesis =>
      rw [reached_concat, reached_concat, run_concat]
      refine Set.union_subset (fun number hasBeen => ?_) (ofGet.trans Set.subset_union_right)
      rcases inductionHypothesis hasBeen with past | isOfGet
      · exact .inl (.inl past)
      · rcases ((world.run earlier).leads_step move).isOfGet_next (numbered.run earlier) isOfGet
          with past | remains
        · exact .inl (.inl (world.inStage_subset_reached earlier _ past))
        · exact .inr remains

/-- As many entries have been installed as reloads with a rulebook are over, or fewer. -/
theorem installs_le_ncard_left
    (numbered : world.Numbered)
    (initially : world.service.cache.installs = 0)
    (moves : List Move) :
    (world.run moves).service.cache.installs ≤ (world.left moves Task.hasRulebook).ncard := by
  induction moves using List.reverseRecOn with
  | nil => exact initially.le.trans (Nat.zero_le _)
  | append_singleton earlier move inductionHypothesis =>
      have grows : world.left earlier Task.hasRulebook ⊆ _ :=
        left_subset_concat Task.isStage_hasRulebook numbered move
      have finite {moves : List Move} : (world.left moves Task.hasRulebook).Finite :=
        (finite_reached numbered).subset Set.sdiff_subset
      rcases ((world.run earlier).leads_step move).installs_cases with
        ⟨same, -⟩ | ⟨number, role, reload, rulebook, now, underWay, further, one, -⟩
      · rw [run_concat, same]
        exact inductionHypothesis.trans (Set.ncard_le_ncard grows finite)
      · have wasIn : number ∈ (world.run earlier).inStage Task.hasRulebook :=
          ⟨_, underWay, rfl⟩
        have leaves : number ∈ world.left (earlier ++ [move]) Task.hasRulebook := by
          refine ⟨?_, ?_⟩
          · rw [reached_concat]
            exact .inl (world.inStage_subset_reached earlier _ wasIn)
          · rw [run_concat]
            rintro ⟨task, isNow, atStage⟩
            exact absurd (further task isNow)
              (Nat.not_lt.mpr ((Task.hasRulebook_iff task).mp atStage).2)
        rw [run_concat, one]
        calc
          (world.run earlier).service.cache.installs + 1 ≤
              (world.left earlier Task.hasRulebook).ncard + 1 :=
            Nat.succ_le_succ inductionHypothesis
          _ = (insert number (world.left earlier Task.hasRulebook)).ncard :=
            (Set.ncard_insert_of_notMem (fun isLeft => isLeft.2 wasIn) finite).symm
          _ ≤ (world.left (earlier ++ [move]) Task.hasRulebook).ncard :=
            Set.ncard_le_ncard (Set.insert_subset leaves grows) finite

/--
What the counts of the cache say of a run so far, with all that may still be under way:
how many gets are past their lookup, its decision included, how many reloads have started,
and how many of them have got a rulebook. A reload reads at most one text. Each reload in
the background is the refresh of an entry, and an entry, which its serial tells from all
others, gets at most one.
-/
structure Accounted (world : World) (moves : List Move) : Prop where
  gets :
    (world.reached moves Task.isGet ∩ world.reached moves Task.isPastLookup).ncard =
      (world.run moves).service.cache.counts.hits +
        (world.run moves).service.cache.counts.misses
  refreshes_le_hits :
    (world.run moves).service.cache.counts.refreshes ≤
      (world.run moves).service.cache.counts.hits
  reloads :
    (world.reached moves Task.isReload).ncard =
      (world.run moves).service.cache.counts.misses +
        (world.run moves).service.cache.counts.refreshes
  refreshes :
    (world.reached moves Task.isBackground).ncard =
      (world.run moves).service.cache.counts.refreshes
  loads : ∀ number ∈ world.reached moves Task.isReload, (world.run moves).loadsOf number ≤ 1
  allLoads :
    (world.run moves).service.store.loads =
      (world.run moves).history.countP fun occurrence => occurrence.event.isLoad
  rulebooks :
    (world.reached moves Task.isReload ∩ world.reached moves Task.hasRulebook).ncard =
      (world.run moves).service.cache.counts.recompiles +
        (world.run moves).service.cache.counts.revalidations
  serials :
    ∀ tenant entry other otherEntry,
      world.Installed moves tenant entry →
        world.Installed moves other otherEntry →
          entry.serial = otherEntry.serial → tenant = other ∧ entry = otherEntry
  refreshed :
    ∀ number ∈ world.reached moves Task.isBackground,
      ∃ tenant entry,
        world.Installed moves tenant entry ∧
          number ∈ world.reached moves (Task.refreshes entry.serial)
  refreshedOnce : ∀ serial, (world.reached moves (Task.refreshes serial)).Subsingleton
  refreshes_le :
    (world.run moves).service.cache.counts.refreshes ≤
      (world.run moves).service.cache.counts.recompiles +
        (world.run moves).service.cache.counts.revalidations

/-- A refresh is started by a get that is served from the cache. -/
theorem refreshes_le_hits_of_leads
    {world next : World}
    (leads : world.Leads next)
    (soFar : world.service.cache.counts.refreshes ≤ world.service.cache.counts.hits) :
    next.service.cache.counts.refreshes ≤ next.service.cache.counts.hits := by
  cases leads with
  | performed underWay leads =>
      cases leads with
      | serve => exact soFar.trans (Nat.le_succ _)
      | refresh => exact Nat.succ_le_succ soFar
      | install => simpa [settle, Service.withCache] using soFar
      | replaced tenant text invalidates => cases invalidates <;> exact soFar
      | _ => exact soFar
  | @abandoned number reload underWay =>
      rw [giveUp]
      cases reload.existing? <;> exact soFar
  | _ => exact soFar

theorem refreshes_le_hits_run
    (initially : world.service.cache.counts.refreshes ≤ world.service.cache.counts.hits)
    (moves : List Move) :
    (world.run moves).service.cache.counts.refreshes ≤
      (world.run moves).service.cache.counts.hits :=
  run_induction (fun _ _ => refreshes_le_hits_of_leads) initially moves

section FromStart

variable (lifetimes : Lifetimes) (texts : List (String × String))

/-- The hits and misses of a run are those of its gets. -/
theorem ncard_isPastLookup (moves : List Move) :
    ((start lifetimes texts).reached moves Task.isPastLookup).ncard =
      ((start lifetimes texts).run moves).service.cache.counts.hits +
        ((start lifetimes texts).run moves).service.cache.counts.misses :=
  ncard_reached_start lifetimes texts Task.isStage_isPastLookup (fun _ => rfl) Task.counts_isPastLookup rfl
    moves

/-- The gets that are past their lookup are gets. -/
theorem reached_isPastLookup_subset (moves : List Move) :
    (start lifetimes texts).reached moves Task.isPastLookup ⊆
      (start lifetimes texts).reached moves Task.isGet :=
  (reached_mono (fun _ => Task.isOfGet_of_isPastLookup) _ moves).trans
    (reached_isOfGet_subset (inStage_start lifetimes texts _) moves)

/-- When no get is under way, every get that was started has been counted. -/
theorem ncard_isGet_of_none_underWay
    {moves : List Move}
    (noneUnderWay : ((start lifetimes texts).run moves).inStage Task.isOfGet = ∅) :
    ((start lifetimes texts).reached moves Task.isGet).ncard =
      ((start lifetimes texts).run moves).service.cache.counts.hits +
        ((start lifetimes texts).run moves).service.cache.counts.misses := by
  have allPast := reached_isGet_subset (numbered_start lifetimes texts) moves
  rw [noneUnderWay, Set.union_empty] at allPast
  rw [allPast.antisymm (reached_isPastLookup_subset lifetimes texts moves)]
  exact ncard_isPastLookup lifetimes texts moves

/-- The misses and refreshes of a run are its reloads. -/
theorem ncard_isReload (moves : List Move) :
    ((start lifetimes texts).reached moves Task.isReload).ncard =
      ((start lifetimes texts).run moves).service.cache.counts.misses +
        ((start lifetimes texts).run moves).service.cache.counts.refreshes :=
  ncard_reached_start lifetimes texts Task.isStage_isReload (fun _ => rfl) Task.counts_isReload rfl
    moves

/-- The refreshes of a run are its reloads in the background. -/
theorem ncard_isBackground (moves : List Move) :
    ((start lifetimes texts).reached moves Task.isBackground).ncard =
      ((start lifetimes texts).run moves).service.cache.counts.refreshes :=
  ncard_reached_start lifetimes texts Task.isStage_isBackground (fun _ => rfl)
    Task.counts_isBackground rfl moves

/-- The recompilations and revalidations of a run are its reloads that got a rulebook. -/
theorem ncard_hasRulebook (moves : List Move) :
    ((start lifetimes texts).reached moves Task.hasRulebook).ncard =
      ((start lifetimes texts).run moves).service.cache.counts.recompiles +
        ((start lifetimes texts).run moves).service.cache.counts.revalidations :=
  ncard_reached_start lifetimes texts Task.isStage_hasRulebook (fun _ => rfl) Task.counts_hasRulebook rfl
    moves

/-- At most as many entries are installed as reloads have got a rulebook. -/
theorem installs_le_ncard_hasRulebook (moves : List Move) :
    ((start lifetimes texts).run moves).service.cache.installs ≤
      ((start lifetimes texts).reached moves Task.hasRulebook).ncard :=
  (installs_le_ncard_left (numbered_start lifetimes texts) rfl moves).trans
    (Set.ncard_le_ncard Set.sdiff_subset (finite_reached (numbered_start lifetimes texts)))

/--
In every run from the start all is accounted for, whatever is still under way, as long as
the thread of every refresh starts.
-/
theorem accounted
    {moves : List Move}
    (threadsStart : ∀ number, .abandon number ∉ moves) :
    (start lifetimes texts).Accounted moves := by
  have once := refreshesOnce_start lifetimes texts threadsStart
  have loadsOnce :=
    (loadsOnce_start lifetimes texts).run (numbered_start lifetimes texts) moves
  constructor
  case gets =>
    rw [Set.inter_eq_right.mpr (reached_isPastLookup_subset lifetimes texts moves)]
    exact ncard_isPastLookup lifetimes texts moves
  case refreshes_le_hits =>
    exact refreshes_le_hits_run (Nat.le_refl 0) moves
  case reloads => exact ncard_isReload lifetimes texts moves
  case refreshes => exact ncard_isBackground lifetimes texts moves
  case loads => exact fun number _ => loadsOnce.loadsOf_le number
  case allLoads => exact loadsOnce.loads
  case rulebooks =>
    rw [Set.inter_eq_right.mpr (reached_mono (fun _ => Task.isReload_of_hasRulebook) _ moves)]
    exact ncard_hasRulebook lifetimes texts moves
  case serials => exact (identified_start lifetimes texts moves).unique
  case refreshed =>
    exact fun number => exists_installed_of_isBackground lifetimes texts
  case refreshedOnce => exact once.subsingleton
  case refreshes_le =>
    calc
      ((start lifetimes texts).run moves).service.cache.refreshes ≤
          ((start lifetimes texts).run moves).service.cache.installs := once.refreshes_le
      _ ≤ ((start lifetimes texts).reached moves Task.hasRulebook).ncard :=
        installs_le_ncard_hasRulebook lifetimes texts moves
      _ = ((start lifetimes texts).run moves).service.cache.counts.recompiles +
            ((start lifetimes texts).run moves).service.cache.counts.revalidations :=
        ncard_hasRulebook lifetimes texts moves

end FromStart

/--
A get loads its rulebook and is answered. When the entry has become stale, another get
finds it and starts its refresh; both are still under way.
-/
def refreshUnderWay : List Move :=
  .start (.get "t") :: List.replicate 9 (.perform 0) ++
    .advance (.ofSeconds 4) :: .start (.get "t") :: List.replicate 4 (.perform 10)

theorem counts_refreshUnderWay {old : Rulebook} (compiled : Rulebook.ofText replacedText = .ok old) :
    ((start {} [("t", replacedText)]).run refreshUnderWay).service.cache.counts =
        { hits := 1, misses := 1, recompiles := 1, revalidations := 0, refreshes := 1 } ∧
      14 ∈ ((start {} [("t", replacedText)]).run refreshUnderWay).inStage (Task.refreshes 0) := by
  generalize replacedText = oldText at compiled
  simp [refreshUnderWay, run, step, start, startTask, performTask, settle, updateTask,
    Operation.begin, Task.advance, ReloadRole.conclude?, Service.start, Service.load,
    Service.withCache, Service.advance, TextStore.ofPairs, TextStore.load,
    TextStore.text, TenantMap.ofPairs, TenantMap.get?, TenantMap.insert,
    TenantMap.erase, TenantMap.empty, Cache.empty, Cache.observe, Cache.proceed,
    Cache.countMiss, Cache.countHit, Cache.claimRefresh, Cache.resolve, Cache.install,
    Cache.generation, CachedRulebook.freshness, CachedRulebook.age, Lifetimes.expiryAge,
    Lifetimes.refreshAge, Span.ofSeconds, Span.ofMillis, inStage, Task.refreshes,
    Task.isBackground, Task.reload?, compiled]

theorem accounted_refreshUnderWay :
    (∀ number, .abandon number ∉ refreshUnderWay) ∧
      (start {} [("t", replacedText)]).Accounted refreshUnderWay ∧
      ((start {} [("t", replacedText)]).run refreshUnderWay).service.cache.counts =
        { hits := 1, misses := 1, recompiles := 1, revalidations := 0, refreshes := 1 } ∧
      14 ∈ ((start {} [("t", replacedText)]).run refreshUnderWay).inStage (Task.refreshes 0) := by
  have threadsStart : ∀ number, .abandon number ∉ refreshUnderWay := by
    intro number
    simp [refreshUnderWay]
  obtain ⟨old, compiled⟩ := exists_replaced
  exact ⟨threadsStart, accounted {} [("t", replacedText)] threadsStart,
    counts_refreshUnderWay compiled⟩

end World

end LendingRules
