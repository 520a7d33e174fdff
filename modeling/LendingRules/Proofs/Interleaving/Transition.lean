import LendingRules.Proofs.Interleaving.World

namespace LendingRules

/-!
# What one step can do

A task has a handful of ways to go on from each point. They are listed once, as
a relation between a task and the effect of its next step, so that whatever
holds of every step is shown by going through the list.
-/

namespace Cache

/--
A get serves what it found unless that has expired, starts the one refresh of
what is stale, and has to reload when there is nothing to serve.
-/
theorem proceed_cases
    (cache : Cache)
    (lifetimes : Lifetimes)
    (now : Nat)
    (observed : Reload) :
    (∃ existing,
        observed.existing? = some existing ∧
          existing.freshness lifetimes now ≠ .expired ∧
          cache.proceed lifetimes now observed =
            (.served existing.rulebook, cache.countHit)) ∨
      (∃ existing,
        observed.existing? = some existing ∧
          existing.freshness lifetimes now = .stale ∧
          existing.serial ∉ cache.refreshed ∧
          cache.proceed lifetimes now observed =
            (.refreshing existing.rulebook observed,
              cache.countHit.claimRefresh existing.serial)) ∨
      (∀ existing ∈ observed.existing?, existing.freshness lifetimes now = .expired) ∧
        cache.proceed lifetimes now observed = (.reloading observed, cache.countMiss) := by
  cases found : observed.existing? with
  | none =>
      exact .inr (.inr (by simp [proceed, found]))
  | some existing =>
      cases progress : existing.freshness lifetimes now with
      | fresh =>
          refine .inl ⟨existing, rfl, ?_, ?_⟩
          · simp [progress]
          · simp [proceed, found, progress]
      | expired =>
          exact .inr (.inr (by simp [proceed, found, progress]))
      | stale =>
          by_cases claimed : existing.serial ∈ cache.refreshed
          · refine .inl ⟨existing, rfl, ?_, ?_⟩
            · simp [progress]
            · simp [proceed, found, progress, claimed]
          · refine .inr (.inl ⟨existing, rfl, progress, claimed, ?_⟩)
            simp [proceed, found, progress, claimed]

/-- A reload keeps what it found, compiles the text, or fails to. -/
theorem resolve_cases (cache : Cache) (reload : Reload) (text : String) :
    (∃ existing,
        reload.existing? = some existing ∧
          existing.rulebook.digest = Digest.ofText text ∧
          cache.resolve reload text =
            (.ok existing.rulebook,
              { cache with
                counts.revalidations := cache.counts.revalidations + 1 })) ∨
      (∃ rulebook,
        Rulebook.ofText text = .ok rulebook ∧
          cache.resolve reload text =
            (.ok rulebook,
              { cache with counts.recompiles := cache.counts.recompiles + 1 })) ∨
      ∃ error,
        Rulebook.ofText text = .error error ∧
          cache.resolve reload text = (.error error, cache) := by
  cases kept : reload.existing?.filter fun existing =>
      existing.rulebook.digest = Digest.ofText text with
  | some existing =>
      obtain ⟨found, same⟩ := Option.filter_eq_some_iff.mp kept
      exact .inl ⟨existing, found, of_decide_eq_true same, by simp [resolve, kept]⟩
  | none =>
      cases compiled : Rulebook.ofText text with
      | ok rulebook =>
          exact .inr (.inl ⟨rulebook, rfl, by simp [resolve, kept, compiled]⟩)
      | error error =>
          exact .inr (.inr ⟨error, rfl, by simp [resolve, kept, compiled]⟩)

end Cache

/-- The ways in which a task may go on, each with its effect. -/
inductive Task.Leads (service : Service) : Task → Effect → Prop where
  | get (tenant : String) :
      Leads service (.starting (.get tenant))
        { service, next? := some (.timed tenant service.now) }
  | readText (tenant : String) :
      Leads service (.starting (.readText tenant))
        { service := (service.load tenant).2
          event? := some (.loaded tenant (service.store.text tenant)) }
  | saved
      {tenant text : String}
      {store : TextStore}
      (success : service.store.save tenant text = .ok store) :
      Leads service (.starting (.save tenant text))
        { service := { service with store }, event? := some (.wrote tenant text) }
  | replacementSaved
      {tenant text : String}
      {store : TextStore}
      {rulebook : Rulebook}
      (invalidate : Bool)
      (compiled : Rulebook.ofText text = .ok rulebook)
      (success : service.store.save tenant text = .ok store) :
      Leads service (.starting (.replaceText tenant text invalidate))
        { service := { service with store }
          next? := some (.replacing tenant text invalidate)
          event? := some (.wrote tenant text) }
  | saveRefused
      {tenant text : String}
      {error : SourceError}
      (refusal : service.store.save tenant text = .error error) :
      Leads service (.starting (.save tenant text)) { service }
  | replacementRejected
      {text : String}
      {error : LendingError}
      (tenant : String)
      (invalidate : Bool)
      (failure : Rulebook.ofText text = .error error) :
      Leads service (.starting (.replaceText tenant text invalidate)) { service }
  | replacementRefused
      {tenant text : String}
      {error : SourceError}
      (invalidate : Bool)
      (refusal : service.store.save tenant text = .error error) :
      Leads service (.starting (.replaceText tenant text invalidate)) { service }
  | invalidate (tenant : String) :
      Leads service (.starting (.invalidate tenant))
        { service := service.withCache (·.invalidate tenant)
          event? := some (.invalidated tenant) }
  | dropAll :
      Leads service (.starting .dropAll)
        { service := service.withCache Cache.dropAll, event? := some .droppedAll }
  | setLifetimes (lifetimes : Lifetimes) :
      Leads service (.starting (.setLifetimes lifetimes))
        { service := service.withCache (·.setLifetimes lifetimes) }
  | configure (tenant : String) (now : Nat) :
      Leads service (.timed tenant now)
        { service, next? := some (.configured tenant now service.cache.lifetimes) }
  | observe (tenant : String) (now : Nat) (lifetimes : Lifetimes) :
      Leads service (.configured tenant now lifetimes)
        { service
          next? := some (.deciding now lifetimes (service.cache.observe tenant))
          event? := some (.observed tenant) }
  | serve
      {now : Nat}
      {lifetimes : Lifetimes}
      {observed : Reload}
      {existing : CachedRulebook}
      (found : observed.existing? = some existing)
      (unexpired : existing.freshness lifetimes now ≠ .expired) :
      Leads service (.deciding now lifetimes observed)
        { service := service.withCache Cache.countHit
          next? := some (.answering observed.tenant (.ok existing.rulebook)) }
  | refresh
      {now : Nat}
      {lifetimes : Lifetimes}
      {observed : Reload}
      {existing : CachedRulebook}
      (found : observed.existing? = some existing)
      (stale : existing.freshness lifetimes now = .stale)
      (unclaimed : existing.serial ∉ service.cache.refreshed) :
      Leads service (.deciding now lifetimes observed)
        { service := service.withCache (·.countHit.claimRefresh existing.serial)
          next? := some (.answering observed.tenant (.ok existing.rulebook))
          refresh? := some observed }
  | miss
      {now : Nat}
      {lifetimes : Lifetimes}
      {observed : Reload}
      (expired :
        ∀ existing ∈ observed.existing?, existing.freshness lifetimes now = .expired) :
      Leads service (.deciding now lifetimes observed)
        { service := service.withCache Cache.countMiss
          next? := some (.loading .foreground observed) }
  | loaded
      {reload : Reload}
      {text : String}
      (role : ReloadRole)
      (success : service.store.text reload.tenant = .ok text) :
      Leads service (.loading role reload)
        { service := (service.load reload.tenant).2
          next? := some (.resolving role reload text)
          event? := some (.loaded reload.tenant (.ok text)) }
  | unloaded
      {reload : Reload}
      {error : SourceError}
      (role : ReloadRole)
      (failure : service.store.text reload.tenant = .error error) :
      Leads service (.loading role reload)
        { service := (service.load reload.tenant).2
          next? := role.conclude? reload.tenant (.error (.sourceError error))
          event? := some (.loaded reload.tenant (.error error)) }
  | revalidate
      {reload : Reload}
      {text : String}
      {existing : CachedRulebook}
      (role : ReloadRole)
      (found : reload.existing? = some existing)
      (same : existing.rulebook.digest = Digest.ofText text) :
      Leads service (.resolving role reload text)
        { service := service.withCache fun cache =>
            { cache with counts.revalidations := cache.counts.revalidations + 1 }
          next? := some (.stamping role reload existing.rulebook) }
  | recompile
      {text : String}
      {rulebook : Rulebook}
      (role : ReloadRole)
      (reload : Reload)
      (compiled : Rulebook.ofText text = .ok rulebook) :
      Leads service (.resolving role reload text)
        { service := service.withCache fun cache =>
            { cache with counts.recompiles := cache.counts.recompiles + 1 }
          next? := some (.stamping role reload rulebook) }
  | fail
      {text : String}
      {error : LendingError}
      (role : ReloadRole)
      (reload : Reload)
      (failure : Rulebook.ofText text = .error error) :
      Leads service (.resolving role reload text)
        { service, next? := role.conclude? reload.tenant (.error error) }
  | stamp (role : ReloadRole) (reload : Reload) (rulebook : Rulebook) :
      Leads service (.stamping role reload rulebook)
        { service, next? := some (.installing role reload rulebook service.now) }
  | install (role : ReloadRole) (reload : Reload) (rulebook : Rulebook) (now : Nat) :
      Leads service (.installing role reload rulebook now)
        { service := service.withCache (·.install reload rulebook now)
          next? := role.conclude? reload.tenant (.ok rulebook) }
  | answer (tenant : String) (result : Except LendingError Rulebook) :
      Leads service (.answering tenant result)
        { service, event? := some (.obtained tenant result) }
  | replaced (tenant text : String) (invalidate : Bool) :
      Leads service (.replacing tenant text invalidate)
        { service :=
            if invalidate then service.withCache (·.invalidate tenant) else service
          event? := some (.replaced tenant text invalidate) }

namespace Task

/-- A task goes on in one of the listed ways. -/
theorem leads_advance (service : Service) (task : Task) :
    task.Leads service (task.advance service) := by
  cases task with
  | starting operation =>
      cases operation with
      | get tenant => exact .get tenant
      | readText tenant => exact .readText tenant
      | save tenant text =>
          simp only [advance, Operation.begin, Service.saveText]
          cases success : service.store.save tenant text with
          | error error => exact .saveRefused success
          | ok store => exact .saved success
      | replaceText tenant text invalidate =>
          simp only [advance, Operation.begin, Service.saveText]
          cases compiled : Rulebook.ofText text with
          | error error => exact .replacementRejected tenant invalidate compiled
          | ok rulebook =>
              cases success : service.store.save tenant text with
              | error error => exact .replacementRefused invalidate success
              | ok store => exact .replacementSaved invalidate compiled success
      | invalidate tenant => exact .invalidate tenant
      | dropAll => exact .dropAll
      | setLifetimes lifetimes => exact .setLifetimes lifetimes
  | timed tenant now => exact .configure tenant now
  | configured tenant now lifetimes => exact .observe tenant now lifetimes
  | deciding now lifetimes observed =>
      simp only [advance]
      rcases service.cache.proceed_cases lifetimes now observed with
        ⟨existing, found, unexpired, served⟩ |
          ⟨existing, found, stale, unclaimed, refreshing⟩ | ⟨expired, reloading⟩
      · rw [served]
        exact .serve found unexpired
      · rw [refreshing]
        exact .refresh found stale unclaimed
      · rw [reloading]
        exact .miss expired
  | loading role reload =>
      simp only [advance, Service.load, TextStore.load]
      cases loaded : service.store.text reload.tenant with
      | ok text => exact .loaded role loaded
      | error error => exact .unloaded role loaded
  | resolving role reload text =>
      simp only [advance]
      rcases service.cache.resolve_cases reload text with
        ⟨existing, found, same, kept⟩ | ⟨rulebook, compiled, made⟩ |
          ⟨error, failure, failed⟩
      · rw [kept]
        exact .revalidate role found same
      · rw [made]
        exact .recompile role reload compiled
      · rw [failed]
        exact .fail role reload failure
  | stamping role reload rulebook => exact .stamp role reload rulebook
  | installing role reload rulebook now => exact .install role reload rulebook now
  | answering tenant result => exact .answer tenant result
  | replacing tenant text invalidate => exact .replaced tenant text invalidate

end Task

/-- The ways in which a world may go on. -/
inductive World.Leads (world : World) : World → Prop where
  | idle : Leads world world
  | started (operation : Operation) :
      Leads world (world.startTask operation)
  | performed
      {number : Nat}
      {task : Task}
      {effect : Effect}
      (underWay : world.tasks number = some task)
      (leads : task.Leads world.service effect) :
      Leads world (world.settle number effect)
  | abandoned
      {number : Nat}
      {reload : Reload}
      (underWay : world.tasks number = some (.loading .background reload)) :
      Leads world (world.giveUp number reload)
  | advanced (span : Span) :
      Leads world { world with service := world.service.advance span }
  | outage (outage? : Option String) :
      Leads world { world with service := world.service.setOutage outage? }

namespace World

/-- Every move goes on in one of the listed ways. -/
theorem leads_step (world : World) (move : Move) : world.Leads (world.step move) := by
  cases move with
  | start operation => exact .started operation
  | perform number =>
      simp only [step, performTask]
      split
      · exact .idle
      · rename_i task underWay
        exact .performed underWay (task.leads_advance world.service)
  | abandon number =>
      simp only [step, abandonTask]
      split
      · rename_i reload underWay
        exact .abandoned underWay
      · exact .idle
  | advance span => exact .advanced span
  | setOutage outage? => exact .outage outage?

/-- What every way to go on preserves holds at the end of a run. -/
theorem run_induction
    {holds : World → Prop}
    (preserved : ∀ world next, world.Leads next → holds world → holds next)
    {world : World}
    (initially : holds world)
    (moves : List Move) :
    holds (world.run moves) := by
  induction moves generalizing world with
  | nil => exact initially
  | cons move rest inductionHypothesis =>
      exact inductionHypothesis
        (preserved world _ (world.leads_step move) initially)

@[simp] theorem run_nil (world : World) : world.run [] = world :=
  rfl

@[simp] theorem run_cons (world : World) (move : Move) (rest : List Move) :
    world.run (move :: rest) = (world.step move).run rest :=
  rfl

theorem run_append (world : World) (first second : List Move) :
    world.run (first ++ second) = (world.run first).run second :=
  List.foldl_append

theorem run_concat (world : World) (moves : List Move) (move : Move) :
    world.run (moves ++ [move]) = (world.run moves).step move := by
  rw [run_append, run_cons, run_nil]

/-- Whoever is under way after a step of a task was so before, or is new. -/
theorem task_of_settle
    {world : World}
    {number query : Nat}
    {effect : Effect}
    {task : Task}
    (underWay : (world.settle number effect).tasks query = some task) :
    (query = world.nextTask ∧
        ∃ reload,
          effect.refresh? = some reload ∧ task = .loading .background reload) ∨
      (query = number ∧ effect.next? = some task) ∨
      (query ≠ number ∧ world.tasks query = some task) := by
  by_cases isNext : query = world.nextTask
  · subst isNext
    simp only [settle, updateTask_same] at underWay
    obtain ⟨reload, refreshed, rfl⟩ := Option.map_eq_some_iff.mp underWay
    exact .inl ⟨rfl, reload, refreshed, rfl⟩
  · simp only [settle, updateTask_other isNext] at underWay
    by_cases isNumber : query = number
    · subst isNumber
      rw [updateTask_same] at underWay
      exact .inr (.inl ⟨rfl, underWay⟩)
    · rw [updateTask_other isNumber] at underWay
      exact .inr (.inr ⟨isNumber, underWay⟩)

/-- Whoever is under way after an operation has begun was so before, or is it. -/
theorem task_of_startTask
    {world : World}
    {operation : Operation}
    {query : Nat}
    {task : Task}
    (underWay : (world.startTask operation).tasks query = some task) :
    (query = world.nextTask ∧ task = .starting operation) ∨
      world.tasks query = some task := by
  by_cases isNext : query = world.nextTask
  · subst isNext
    simp only [startTask, updateTask_same, Option.some.injEq] at underWay
    exact .inl ⟨rfl, underWay.symm⟩
  · simp only [startTask, updateTask_other isNext] at underWay
    exact .inr underWay

/-- Whoever is under way after a refresh was given up was so before. -/
theorem task_of_giveUp
    {world : World}
    {number query : Nat}
    {reload : Reload}
    {task : Task}
    (underWay : (world.giveUp number reload).tasks query = some task) :
    world.tasks query = some task := by
  by_cases isNumber : query = number
  · subst isNumber
    simp [giveUp] at underWay
  · simpa only [giveUp, updateTask_other isNumber] using underWay

end World

end LendingRules
