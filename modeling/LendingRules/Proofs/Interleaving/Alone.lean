import LendingRules.Proofs.Interleaving.Transition

namespace LendingRules

/-!
# Operations without interruption

When nothing happens between its steps, an operation comes to what the service
does in one go: a get to the rulebook of its tenant, a replacement to the text
replaced, and a refresh to its reload.
-/

namespace Task

/-- The steps of a task that nothing interrupts, at most as many as given. -/
def runAlone : Nat → Service → Option Task → Service × List Event
  | 0, service, _ | _, service, none => (service, [])
  | steps + 1, service, some task =>
      let effect := task.advance service
      let others := runAlone steps effect.service effect.next?
      (others.1, effect.event?.toList ++ others.2)

@[simp] theorem runAlone_none (steps : Nat) (service : Service) :
    runAlone steps service none = (service, []) := by
  cases steps <;> rfl

@[simp] theorem runAlone_some (steps : Nat) (service : Service) (task : Task) :
    runAlone (steps + 1) service (some task) =
      ((runAlone steps (task.advance service).service (task.advance service).next?).1,
        (task.advance service).event?.toList ++
          (runAlone steps (task.advance service).service (task.advance service).next?).2) :=
  rfl

/-- Without interruption a refresh is a reload of the service. -/
theorem runAlone_refresh (service : Service) (reload : Reload) :
    (runAlone 4 service (some (.loading .background reload))).1 =
      service.refresh reload := by
  simp only [Service.refresh, Service.load, Service.complete, TextStore.load,
    runAlone_some, advance]
  cases loaded : service.store.text reload.tenant with
  | error error => simp [ReloadRole.conclude?]
  | ok text =>
      simp only [runAlone_some, advance, Cache.complete]
      rcases resolved : service.cache.resolve reload text with ⟨result, cache⟩
      cases result with
      | error error => simp [ReloadRole.conclude?]
      | ok rulebook => simp [advance, ReloadRole.conclude?, Service.withCache]

/-- Without interruption a replacement is that of the service. -/
theorem runAlone_replaceText
    (service : Service)
    (tenant text : String)
    (invalidate : Bool) :
    (runAlone 2 service (some (.starting (.replaceText tenant text invalidate)))).1 =
      (service.replaceText tenant text invalidate).2 := by
  simp only [runAlone_some, advance, Operation.begin, Service.replaceText,
    Service.saveText]
  cases Rulebook.ofText text with
  | error error => simp
  | ok rulebook =>
      cases service.store.save tenant text with
      | error error => simp
      | ok store => cases invalidate <;> simp [advance, Service.withCache]

/-- Without interruption a get answers with the rulebook of its tenant. -/
theorem runAlone_get (service : Service) (tenant : String) :
    (runAlone 9 service (some (.starting (.get tenant)))).1 =
        (service.rulebook tenant).2.2 ∧
      (runAlone 9 service (some (.starting (.get tenant)))).2.getLast? =
        some (.obtained tenant (service.rulebook tenant).1) := by
  simp only [runAlone_some, advance, Operation.begin, Service.rulebook, Service.access,
    Service.lookup, Cache.lookup]
  rcases service.cache.proceed_cases service.cache.lifetimes service.now
      (service.cache.observe tenant) with
    ⟨existing, -, -, served⟩ | ⟨existing, -, -, -, refreshing⟩ | ⟨-, reloading⟩
  · rw [served]
    simp [advance, Cache.observe]
  · rw [refreshing]
    simp [advance, Cache.observe]
  · rw [reloading]
    simp only [runAlone_some, advance, Service.load, TextStore.load, Cache.observe]
    cases loaded : service.store.text tenant with
    | error error => simp [advance, ReloadRole.conclude?, Service.complete]
    | ok text =>
        simp only [runAlone_some, advance, Service.complete, Cache.complete]
        rcases resolved : service.cache.countMiss.resolve
            ⟨tenant, service.cache.cached.get? tenant, service.cache.generation tenant⟩
            text with ⟨result, cache⟩
        cases result with
        | error error => simp [advance, ReloadRole.conclude?]
        | ok rulebook =>
            simp [advance, ReloadRole.conclude?, Service.withCache]

end Task

namespace World

/-- A world in which only one task takes steps goes on as that task does alone. -/
theorem run_replicate_perform
    {number : Nat}
    (steps : Nat)
    (world : World)
    (known : number < world.nextTask) :
    (world.run (List.replicate steps (.perform number))).service =
        (Task.runAlone steps world.service (world.tasks number)).1 ∧
      (world.run (List.replicate steps (.perform number))).history =
        world.history ++
          (Task.runAlone steps world.service (world.tasks number)).2.map (⟨number, ·⟩) := by
  induction steps generalizing world with
  | zero => simp [Task.runAlone]
  | succ steps inductionHypothesis =>
      rw [List.replicate_succ, run_cons]
      cases underWay : world.tasks number with
      | none =>
          have stays : world.step (.perform number) = world := by
            simp [step, performTask, underWay]
          have others := inductionHypothesis world known
          rw [underWay] at others
          rw [stays]
          simpa using others
      | some task =>
          have goesOn :
              world.step (.perform number) =
                world.settle number (task.advance world.service) := by
            simp [step, performTask, underWay]
          have ownTask :
              (world.settle number (task.advance world.service)).tasks number =
                (task.advance world.service).next? := by
            simp only [settle, updateTask_other (Nat.ne_of_lt known), updateTask_same]
          obtain ⟨service, history⟩ :=
            inductionHypothesis (world.settle number (task.advance world.service))
              (Nat.lt_succ_of_lt known)
          rw [ownTask] at service history
          rw [goesOn]
          refine ⟨service, ?_⟩
          rw [history, settle, Task.runAlone_some, List.map_append, List.append_assoc]

/-- A get that nothing interrupts is the one step that the service makes of it. -/
theorem run_get (world : World) (tenant : String) :
    (world.run (.start (.get tenant) ::
        List.replicate 9 (.perform world.nextTask))).service =
        (world.service.rulebook tenant).2.2 ∧
      (world.run (.start (.get tenant) ::
          List.replicate 9 (.perform world.nextTask))).history.getLast? =
        some ⟨world.nextTask, .obtained tenant (world.service.rulebook tenant).1⟩ := by
  obtain ⟨service, history⟩ :=
    run_replicate_perform 9 (world.startTask (.get tenant)) (Nat.lt_succ_self _)
  have ownTask :
      (world.startTask (.get tenant)).tasks world.nextTask =
        some (.starting (.get tenant)) :=
    updateTask_same _ _ _
  rw [ownTask] at service history
  obtain ⟨sameService, answered⟩ := Task.runAlone_get world.service tenant
  constructor
  · exact service.trans sameService
  · rw [run_cons, step, history, List.getLast?_append, List.getLast?_map]
    have answeredHere :
        (Task.runAlone 9 (world.startTask (.get tenant)).service
            (some (.starting (.get tenant)))).2.getLast? =
          some (.obtained tenant (world.service.rulebook tenant).1) :=
      answered
    rw [answeredHere]
    rfl

end World

end LendingRules
