import LendingRules.Service.Basic

namespace LendingRules

/-!
# Interleaved operations

Many callers use one service at the same time. An operation is a task that goes
on one access at a time: each step reads or changes the clock, the settings, the
cache or the store once, and between two steps any other task may take as many
as it likes. Background refreshes are tasks of their own. What happens is
written down in a history, in the order in which it happens.
-/

/-- What a caller may ask of the service. -/
inductive Operation where
  | get (tenant : String)
  | readText (tenant : String)
  | save (tenant text : String)
  | replaceText (tenant text : String) (invalidate : Bool)
  | invalidate (tenant : String)
  | dropAll
  | setLifetimes (lifetimes : Lifetimes)
  deriving Repr, DecidableEq

/-- Whether somebody waits for the result of a reload. -/
inductive ReloadRole where
  | foreground
  | background
  deriving Repr, DecidableEq

/-- How far an operation has come, with all that it has read so far. -/
inductive Task where
  | starting (operation : Operation)
  | timed (tenant : String) (now : Nat)
  | configured (tenant : String) (now : Nat) (lifetimes : Lifetimes)
  | deciding (now : Nat) (lifetimes : Lifetimes) (observed : Reload)
  | loading (role : ReloadRole) (reload : Reload)
  | resolving (role : ReloadRole) (reload : Reload) (text : String)
  | stamping (role : ReloadRole) (reload : Reload) (rulebook : Rulebook)
  | installing (role : ReloadRole) (reload : Reload) (rulebook : Rulebook) (now : Nat)
  | answering (tenant : String) (result : Except LendingError Rulebook)
  | replacing (tenant text : String) (invalidate : Bool)

/-- What the history tells of a step. -/
inductive Event where
  | observed (tenant : String)
  | loaded (tenant : String) (loaded : Except SourceError String)
  | obtained (tenant : String) (result : Except LendingError Rulebook)
  | wrote (tenant text : String)
  | replaced (tenant text : String) (invalidated : Bool)
  | invalidated (tenant : String)
  | droppedAll

namespace Event

/-- Whether an event makes whatever is cached for a tenant invalid. -/
def Invalidates (tenant : String) : Event → Prop
  | invalidated other => other = tenant
  | replaced other _ alsoInvalidated => alsoInvalidated = true ∧ other = tenant
  | droppedAll => True
  | _ => False

end Event

/-- An event with the number of the task it comes from. -/
structure Occurrence where
  task : Nat
  event : Event

/-- Where one step of a task leads. -/
structure Effect where
  service : Service
  next? : Option Task := none
  refresh? : Option Reload := none
  event? : Option Event := none

namespace ReloadRole

/-- How a reload goes on when its result is known. -/
def conclude?
    (role : ReloadRole)
    (tenant : String)
    (result : Except LendingError Rulebook) :
    Option Task :=
  match role with
  | foreground => some (.answering tenant result)
  | background => none

end ReloadRole

namespace Operation

/-- The first step of an operation, which is the only one of most. -/
def begin (service : Service) : Operation → Effect
  | get tenant => { service, next? := some (.timed tenant service.now) }
  | readText tenant =>
      let (loaded, service) := service.load tenant
      { service, event? := some (.loaded tenant loaded) }
  | save tenant text =>
      match service.saveText tenant text with
      | .error _ => { service }
      | .ok service => { service, event? := some (.wrote tenant text) }
  | replaceText tenant text invalidates =>
      match Rulebook.ofText text, service.saveText tenant text with
      | .ok _, .ok service =>
          { service
            next? := some (.replacing tenant text invalidates)
            event? := some (.wrote tenant text) }
      | _, _ => { service }
  | invalidate tenant =>
      { service := service.withCache (·.invalidate tenant)
        event? := some (.invalidated tenant) }
  | dropAll =>
      { service := service.withCache Cache.dropAll
        event? := some .droppedAll }
  | setLifetimes lifetimes =>
      { service := service.withCache (·.setLifetimes lifetimes) }

end Operation

namespace Task

/-- Where the next step of a task leads. -/
def advance (service : Service) : Task → Effect
  | starting operation => operation.begin service
  | timed tenant now =>
      { service, next? := some (.configured tenant now service.cache.lifetimes) }
  | configured tenant now lifetimes =>
      { service
        next? := some (.deciding now lifetimes (service.cache.observe tenant))
        event? := some (.observed tenant) }
  | deciding now lifetimes observed =>
      match service.cache.proceed lifetimes now observed with
      | (.served rulebook, cache) =>
          { service := { service with cache }
            next? := some (.answering observed.tenant (.ok rulebook)) }
      | (.refreshing rulebook reload, cache) =>
          { service := { service with cache }
            next? := some (.answering observed.tenant (.ok rulebook))
            refresh? := some reload }
      | (.reloading reload, cache) =>
          { service := { service with cache }
            next? := some (.loading .foreground reload) }
  | loading role reload =>
      let (loaded, service) := service.load reload.tenant
      { service
        next? :=
          match loaded with
          | .error error => role.conclude? reload.tenant (.error (.sourceError error))
          | .ok text => some (.resolving role reload text)
        event? := some (.loaded reload.tenant loaded) }
  | resolving role reload text =>
      let (result, cache) := service.cache.resolve reload text
      { service := { service with cache }
        next? :=
          match result with
          | .error error => role.conclude? reload.tenant (.error error)
          | .ok rulebook => some (.stamping role reload rulebook) }
  | stamping role reload rulebook =>
      { service, next? := some (.installing role reload rulebook service.now) }
  | installing role reload rulebook now =>
      { service := service.withCache (·.install reload rulebook now)
        next? := role.conclude? reload.tenant (.ok rulebook) }
  | answering tenant result =>
      { service, event? := some (.obtained tenant result) }
  | replacing tenant text invalidate =>
      { service :=
          if invalidate then service.withCache (·.invalidate tenant) else service
        event? := some (.replaced tenant text invalidate) }

/-- What a task has taken along from its lookup. -/
def reload? : Task → Option Reload
  | deciding _ _ reload | loading _ reload | resolving _ reload _
  | stamping _ reload _ | installing _ reload _ _ => some reload
  | _ => none

end Task

/-- The service, the tasks under way by their numbers, and what has happened. -/
structure World where
  service : Service
  tasks : Nat → Option Task
  nextTask : Nat
  history : List Occurrence

/--
What may happen next: a caller starts an operation, a task takes a step, the
thread of a refresh turns out not to start, or something changes outside.
-/
inductive Move where
  | start (operation : Operation)
  | perform (task : Nat)
  | abandon (task : Nat)
  | advance (span : Span)
  | setOutage (outage? : Option String)
  deriving Repr, DecidableEq

/-- Change what is known of one task. -/
def updateTask
    (tasks : Nat → Option Task)
    (number : Nat)
    (task? : Option Task) :
    Nat → Option Task :=
  fun query => if query = number then task? else tasks query

@[simp] theorem updateTask_same
    (tasks : Nat → Option Task)
    (number : Nat)
    (task? : Option Task) :
    updateTask tasks number task? number = task? := by
  simp [updateTask]

theorem updateTask_other
    {number query : Nat}
    (different : query ≠ number)
    (tasks : Nat → Option Task)
    (task? : Option Task) :
    updateTask tasks number task? query = tasks query := by
  simp [updateTask, different]

namespace World

/-- Nobody uses a service that has nothing in its cache yet. -/
def start (lifetimes : Lifetimes) (texts : List (String × String)) : World where
  service := .start lifetimes texts
  tasks := fun _ => none
  nextTask := 0
  history := []

/-- Let a task have an effect; a refresh gets the next number. -/
def settle (world : World) (number : Nat) (effect : Effect) : World where
  service := effect.service
  tasks :=
    updateTask (updateTask world.tasks number effect.next?) world.nextTask
      (effect.refresh?.map (.loading .background))
  nextTask := world.nextTask + 1
  history := world.history ++ effect.event?.toList.map (⟨number, ·⟩)

/-- Start an operation under the next number. -/
def startTask (world : World) (operation : Operation) : World :=
  { world with
    tasks := updateTask world.tasks world.nextTask (some (.starting operation))
    nextTask := world.nextTask + 1 }

/-- Let a task take its next step. -/
def performTask (world : World) (number : Nat) : World :=
  match world.tasks number with
  | none => world
  | some task => world.settle number (task.advance world.service)

/-- Let a refresh not happen; its rulebook may get another. -/
def giveUp (world : World) (number : Nat) (reload : Reload) : World :=
  { world with
    service := reload.existing?.elim world.service fun existing =>
      world.service.withCache (·.unclaimRefresh existing.serial)
    tasks := updateTask world.tasks number none }

/-- Give up a refresh that has done nothing yet. -/
def abandonTask (world : World) (number : Nat) : World :=
  match world.tasks number with
  | some (.loading .background reload) => world.giveUp number reload
  | _ => world

/-- Make one move. -/
def step (world : World) : Move → World
  | .start operation => world.startTask operation
  | .perform number => world.performTask number
  | .abandon number => world.abandonTask number
  | .advance span => { world with service := world.service.advance span }
  | .setOutage outage? => { world with service := world.service.setOutage outage? }

/-- Make moves one after the other. -/
def run (world : World) (moves : List Move) : World :=
  moves.foldl step world

end World

end LendingRules
