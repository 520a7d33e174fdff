import LendingRules.Proofs.Interleaving.Stages

namespace LendingRules

/-!
# Reads of a run

The store counts each attempt to read a text, and the history tells of each. A task
reads before it has a text to go on with and never goes back, so it reads once at most.
-/

/-- Saving a text is not counted as a load. -/
theorem TextStore.loads_of_save
    {store saved : TextStore}
    {tenant text : String}
    (success : store.save tenant text = .ok saved) :
    saved.loads = store.loads := by
  unfold save at success
  split at success
  · cases success
  · cases success
    rfl

/-- Whether an event tells of a text that was read, or could not be. -/
def Event.isLoad : Event → Bool
  | loaded .. => true
  | _ => false

/-- A step reads no text, or it reads one before its task can have a text to go on with. -/
theorem Task.Leads.load_cases
    {service : Service}
    {task : Task}
    {effect : Effect}
    (leads : task.Leads service effect) :
    (effect.event?.any Event.isLoad = false ∧
        effect.service.store.loads = service.store.loads) ∨
      effect.event?.any Event.isLoad = true ∧
        effect.service.store.loads = service.store.loads + 1 ∧
        task.milestone ≤ 4 ∧
        ∀ next, effect.next? = some next → 4 < next.milestone := by
  cases leads with
  | readText =>
      refine .inr ⟨rfl, rfl, Nat.zero_le _, fun next goesOn => ?_⟩
      cases goesOn
  | loaded role =>
      refine .inr ⟨rfl, rfl, Nat.le_refl _, fun next goesOn => ?_⟩
      cases goesOn
      exact Nat.lt_succ_self _
  | unloaded role =>
      refine .inr ⟨rfl, rfl, Nat.le_refl _, fun next goesOn => ?_⟩
      cases role <;> cases goesOn
      exact Nat.lt_of_lt_of_le (Nat.lt_succ_self 4) (by decide : 5 ≤ 8)
  | saved success | replacementSaved _ _ success =>
      exact .inl ⟨rfl, TextStore.loads_of_save success⟩
  | replaced tenant text invalidates => cases invalidates <;> exact .inl ⟨rfl, rfl⟩
  | _ => exact .inl ⟨rfl, rfl⟩

namespace World

/-- How many texts a task has read, or has tried to. -/
def loadsOf (world : World) (number : Nat) : Nat :=
  world.history.countP fun occurrence =>
    occurrence.task = number && occurrence.event.isLoad

/-- All reads of texts are told of, and no task has read more than one text. -/
structure LoadsOnce (world : World) : Prop where
  loadsOf_le : ∀ number, world.loadsOf number ≤ 1
  loadsOf_eq_zero :
    ∀ number task, world.tasks number = some task →
      task.milestone ≤ 4 → world.loadsOf number = 0
  loads :
    world.service.store.loads = world.history.countP fun occurrence => occurrence.event.isLoad

variable {world : World}

theorem loadsOf_settle (effect : Effect) (number query : Nat) :
    (world.settle number effect).loadsOf query =
      world.loadsOf query + (number = query && effect.event?.any Event.isLoad).toNat := by
  cases happened : effect.event? with
  | none => simp [loadsOf, settle, happened]
  | some event =>
      by_cases same : number = query <;>
        simp [loadsOf, settle, happened, same, Bool.toNat, Bool.cond_eq_ite]

theorem countP_isLoad_settle (effect : Effect) (number : Nat) :
    (world.settle number effect).history.countP (fun occurrence => occurrence.event.isLoad) =
      world.history.countP (fun occurrence => occurrence.event.isLoad) +
        (effect.event?.any Event.isLoad).toNat := by
  cases happened : effect.event? with
  | none => simp [settle, happened]
  | some event => simp [settle, happened, Bool.toNat, Bool.cond_eq_ite]

/-- A number that is not yet in use has read nothing. -/
theorem loadsOf_of_unused
    {number : Nat}
    (numbered : world.Numbered)
    (unused : world.nextTask ≤ number) :
    world.loadsOf number = 0 := by
  refine List.countP_eq_zero.mpr fun occurrence member happened => ?_
  have same := of_decide_eq_true (Bool.and_eq_true_iff.mp happened).1
  exact absurd (numbered.history occurrence member) (Nat.not_lt.mpr (same ▸ unused))

theorem loadsOnce_start (lifetimes : Lifetimes) (texts : List (String × String)) :
    (start lifetimes texts).LoadsOnce where
  loadsOf_le := fun _ => Nat.zero_le 1
  loadsOf_eq_zero := fun _ _ _ _ => rfl
  loads := rfl

theorem LoadsOnce.settle
    {number : Nat}
    {task : Task}
    {effect : Effect}
    (once : world.LoadsOnce)
    (numbered : world.Numbered)
    (underWay : world.tasks number = some task)
    (leads : task.Leads world.service effect) :
    (world.settle number effect).LoadsOnce := by
  constructor
  case loadsOf_le =>
    intro query
    have atMost := once.loadsOf_le query
    have unread := once.loadsOf_eq_zero number task underWay
    rw [loadsOf_settle]
    rcases leads.load_cases with ⟨noLoad, -⟩ | ⟨-, -, early, -⟩
    · simpa [noLoad] using atMost
    · by_cases same : number = query
      · subst same
        rw [unread early, Nat.zero_add]
        exact Bool.toNat_le _
      · simpa [same] using atMost
  case loadsOf_eq_zero =>
    intro query now isNow early
    rw [loadsOf_settle]
    rcases task_of_settle isNow with ⟨rfl, -⟩ | ⟨rfl, goesOn⟩ | ⟨different, before⟩
    · have isOld := numbered.tasks number task underWay
      simp [loadsOf_of_unused numbered (Nat.le_refl _), isOld.ne]
    · rcases leads.load_cases with ⟨noLoad, -⟩ | ⟨-, -, -, late⟩
      · have wasEarly := (leads.further goesOn).1.le.trans early
        simp [noLoad, once.loadsOf_eq_zero query task underWay wasEarly]
      · exact absurd (late now goesOn) (Nat.not_lt.mpr early)
    · simp [once.loadsOf_eq_zero query now before early, Ne.symm different]
  case loads =>
    rw [countP_isLoad_settle, ← once.loads]
    rcases leads.load_cases with ⟨noLoad, same⟩ | ⟨load, one, -⟩
    · rw [noLoad]
      exact same
    · rw [load]
      exact one

/-- Every way to go on leaves it at one read for each task. -/
theorem LoadsOnce.of_leads
    {next : World}
    (once : world.LoadsOnce)
    (leads : world.Leads next)
    (numbered : world.Numbered) :
    next.LoadsOnce := by
  cases leads with
  | idle => exact once
  | performed underWay leads => exact once.settle numbered underWay leads
  | started operation =>
      refine ⟨once.loadsOf_le, fun query task isNow early => ?_, once.loads⟩
      rcases task_of_startTask isNow with ⟨rfl, -⟩ | before
      · have unread : world.loadsOf world.nextTask = 0 :=
          loadsOf_of_unused numbered (Nat.le_refl _)
        exact unread
      · exact once.loadsOf_eq_zero query task before early
  | @abandoned number reload underWay =>
      refine ⟨once.loadsOf_le, fun query task isNow early => ?_, ?_⟩
      · exact once.loadsOf_eq_zero query task (task_of_giveUp isNow) early
      · rw [giveUp]
        cases reload.existing? <;> exact once.loads
  | advanced | outage => exact ⟨once.loadsOf_le, once.loadsOf_eq_zero, once.loads⟩

theorem LoadsOnce.run
    (once : world.LoadsOnce)
    (numbered : world.Numbered)
    (moves : List Move) :
    (world.run moves).LoadsOnce := by
  induction moves generalizing world with
  | nil => exact once
  | cons move rest inductionHypothesis =>
      have leads := world.leads_step move
      exact inductionHypothesis (once.of_leads leads numbered) (numbered.of_leads leads)

end World

end LendingRules
