import LendingRules.Proofs.Interleaving.History
import Mathlib.Data.List.Induction
import Mathlib.Data.Set.Card

namespace LendingRules

/-!
# Stages of tasks

A task goes through its stages in order and never comes back to one that it has left.
So the tasks that have been in a stage during a run can be counted as they enter it: a
step adds the task that takes it, unless that was in the stage already, and the refresh
that it starts.
-/

namespace Task

/-- How far a task has come. -/
def milestone : Task → Nat
  | starting _ => 0
  | timed .. | replacing .. => 1
  | configured .. => 2
  | deciding .. => 3
  | loading .. => 4
  | resolving .. => 5
  | stamping .. => 6
  | installing .. => 7
  | answering .. => 8

/-- Whether a task is a reload that nobody waits for. -/
def isBackground : Task → Bool
  | loading .background _ | resolving .background _ _ | stamping .background _ _
  | installing .background _ _ _ => true
  | _ => false

/-- A task at one point may have been at another, or is still there. -/
structure Precedes (first now : Task) : Prop where
  milestone : first.milestone ≤ now.milestone
  isBackground : now.isBackground = first.isBackground

theorem Precedes.refl (task : Task) : task.Precedes task :=
  ⟨Nat.le_refl _, rfl⟩

theorem Precedes.trans
    {first second third : Task}
    (firstSecond : first.Precedes second)
    (secondThird : second.Precedes third) :
    first.Precedes third where
  milestone := firstSecond.milestone.trans secondThird.milestone
  isBackground := secondThird.isBackground.trans firstSecond.isBackground

/-- A task that goes on gets further, and is waited for if and only if it was before. -/
theorem Leads.further
    {service : Service}
    {task next : Task}
    {effect : Effect}
    (leads : task.Leads service effect)
    (goesOn : effect.next? = some next) :
    task.milestone < next.milestone ∧ next.isBackground = task.isBackground := by
  cases leads with
  | loaded role | unloaded role | revalidate role | recompile role | fail role
  | stamp role | install role =>
      cases role <;> cases goesOn <;> simp [milestone, isBackground]
  | _ => cases goesOn <;> simp [milestone, isBackground]

theorem Leads.precedes
    {service : Service}
    {task next : Task}
    {effect : Effect}
    (leads : task.Leads service effect)
    (goesOn : effect.next? = some next) :
    task.Precedes next :=
  ⟨(leads.further goesOn).1.le, (leads.further goesOn).2⟩

/-- Whoever is in a stage at two points is in it at every point between them. -/
def IsStage (stage : Task → Bool) : Prop :=
  ∀ first between last : Task,
    first.Precedes between → between.Precedes last →
      stage first → stage last → stage between

end Task

/-- How many tasks a step brings to a stage at which they were not before. -/
def Effect.newcomers (effect : Effect) (task : Task) (stage : Task → Bool) : Nat :=
  (!stage task && effect.next?.any stage).toNat +
    (effect.refresh?.any fun reload => stage (.loading .background reload)).toNat

/-- A set grows by one element if that is to be added and was not in it. -/
theorem ncard_union_if
    {numbers : Set Nat}
    (finite : numbers.Finite)
    (number : Nat)
    {added isOld : Bool}
    (isOld_iff : added → (isOld ↔ number ∈ numbers)) :
    (numbers ∪ {other | other = number ∧ added}).ncard =
      numbers.ncard + (!isOld && added).toNat := by
  cases added with
  | false => simp
  | true =>
      have same : {other | other = number ∧ true} = {number} := by simp
      rw [same, Set.union_singleton]
      cases isOld with
      | false =>
          rw [Set.ncard_insert_of_notMem (by simpa using isOld_iff rfl) finite]
          rfl
      | true =>
          rw [Set.insert_eq_of_mem ((isOld_iff rfl).mp rfl)]
          rfl

namespace World

variable {world : World} {moves : List Move} {stage : Task → Bool}

/-- The numbers of the tasks that are in a stage. -/
def inStage (world : World) (stage : Task → Bool) : Set Nat :=
  {number | ∃ task, world.tasks number = some task ∧ stage task}

/-- The numbers of the tasks that have been in a stage at some point of a run. -/
def reached (world : World) (moves : List Move) (stage : Task → Bool) : Set Nat :=
  {number | ∃ earlier, earlier <+: moves ∧ number ∈ (world.run earlier).inStage stage}

/-- A task that is in a stage has been in it. -/
theorem inStage_subset_reached (world : World) (moves : List Move) (stage : Task → Bool) :
    (world.run moves).inStage stage ⊆ world.reached moves stage :=
  fun _ isIn => ⟨moves, List.prefix_rfl, isIn⟩

theorem reached_nil (world : World) (stage : Task → Bool) :
    world.reached [] stage = world.inStage stage := by
  ext number
  simp [reached, List.prefix_nil]

/-- After one more move those have been in a stage that had been, or are now. -/
theorem reached_concat
    (world : World)
    (moves : List Move)
    (move : Move)
    (stage : Task → Bool) :
    world.reached (moves ++ [move]) stage =
      world.reached moves stage ∪ ((world.run moves).step move).inStage stage := by
  ext number
  rw [← run_concat]
  constructor
  · rintro ⟨earlier, isPrefix, isIn⟩
    rcases List.prefix_concat_iff.mp isPrefix with rfl | isPrefix
    · exact .inr isIn
    · exact .inl ⟨earlier, isPrefix, isIn⟩
  · rintro (⟨earlier, isPrefix, isIn⟩ | isIn)
    · exact ⟨earlier, isPrefix.trans (List.prefix_append moves [move]), isIn⟩
    · exact ⟨_, List.prefix_rfl, isIn⟩

/-- What holds of all tasks in one stage holds of all that have been in it. -/
theorem reached_mono
    {wider : Task → Bool}
    (within : ∀ task : Task, stage task → wider task)
    (world : World)
    (moves : List Move) :
    world.reached moves stage ⊆ world.reached moves wider := by
  rintro number ⟨earlier, isPrefix, task, underWay, atStage⟩
  exact ⟨earlier, isPrefix, task, underWay, within task atStage⟩

theorem inStage_start
    (lifetimes : Lifetimes)
    (texts : List (String × String))
    (stage : Task → Bool) :
    (start lifetimes texts).inStage stage = ∅ := by
  rw [Set.eq_empty_iff_forall_notMem]
  rintro number ⟨task, underWay, -⟩
  cases underWay

/-- Whoever is in a stage after a move was so before, or enters it. -/
theorem Leads.enters
    {next : World}
    {query : Nat}
    (leads : world.Leads next)
    (isIn : query ∈ next.inStage stage) :
    query ∈ world.inStage stage ∨
      (query = world.nextTask ∧
        ∃ operation, next = world.startTask operation ∧ stage (.starting operation)) ∨
      ∃ number task effect,
        world.tasks number = some task ∧
          task.Leads world.service effect ∧
          next = world.settle number effect ∧
          ((query = world.nextTask ∧
              ∃ reload, effect.refresh? = some reload ∧ stage (.loading .background reload)) ∨
            query = number ∧ ∃ after, effect.next? = some after ∧ stage after) := by
  obtain ⟨now, isNow, atStage⟩ := isIn
  cases leads with
  | idle | advanced | outage => exact .inl ⟨now, isNow, atStage⟩
  | abandoned => exact .inl ⟨now, task_of_giveUp isNow, atStage⟩
  | started operation =>
      rcases task_of_startTask isNow with ⟨rfl, rfl⟩ | before
      · exact .inr (.inl ⟨rfl, operation, rfl, atStage⟩)
      · exact .inl ⟨now, before, atStage⟩
  | @performed number task effect underWay leads =>
      rcases task_of_settle isNow with ⟨rfl, reload, refreshed, rfl⟩ | ⟨rfl, goesOn⟩ | ⟨-, before⟩
      · exact .inr (.inr ⟨number, task, effect, underWay, leads, rfl,
          .inl ⟨rfl, reload, refreshed, atStage⟩⟩)
      · exact .inr (.inr ⟨query, task, effect, underWay, leads, rfl,
          .inr ⟨rfl, now, goesOn, atStage⟩⟩)
      · exact .inl ⟨now, before, atStage⟩

/-- Whoever has an old number after a move had a task before that may have become this one. -/
theorem Leads.exists_precedes
    {next : World}
    {number : Nat}
    {now : Task}
    (leads : world.Leads next)
    (isOld : number < world.nextTask)
    (isNow : next.tasks number = some now) :
    ∃ before, world.tasks number = some before ∧ before.Precedes now := by
  cases leads with
  | idle | advanced | outage => exact ⟨now, isNow, .refl now⟩
  | abandoned => exact ⟨now, task_of_giveUp isNow, .refl now⟩
  | started =>
      rcases task_of_startTask isNow with ⟨rfl, -⟩ | before
      · exact absurd isOld (Nat.lt_irrefl _)
      · exact ⟨now, before, .refl now⟩
  | performed underWay leads =>
      rcases task_of_settle isNow with ⟨rfl, -⟩ | ⟨rfl, goesOn⟩ | ⟨-, before⟩
      · exact absurd isOld (Nat.lt_irrefl _)
      · exact ⟨_, underWay, leads.precedes goesOn⟩
      · exact ⟨now, before, .refl now⟩

theorem Leads.nextTask_le {next : World} (leads : world.Leads next) :
    world.nextTask ≤ next.nextTask := by
  cases leads with
  | started | performed => exact Nat.le_succ _
  | _ => exact Nat.le_refl _

/-- Only tasks that have begun have been in a stage. -/
theorem lt_nextTask_of_reached
    {number : Nat}
    (numbered : world.Numbered)
    (hasBeen : number ∈ world.reached moves stage) :
    number < (world.run moves).nextTask := by
  induction moves using List.reverseRecOn with
  | nil =>
      rw [reached_nil] at hasBeen
      obtain ⟨task, underWay, -⟩ := hasBeen
      exact numbered.tasks number task underWay
  | append_singleton earlier move inductionHypothesis =>
      rw [run_concat]
      rw [reached_concat] at hasBeen
      rcases hasBeen with before | ⟨task, underWay, -⟩
      · exact (inductionHypothesis before).trans_le
          ((world.run earlier).leads_step move).nextTask_le
      · exact (numbered.run earlier |>.of_leads (leads_step _ move)).tasks number task underWay

theorem finite_reached (numbered : world.Numbered) : (world.reached moves stage).Finite :=
  (Set.finite_lt_nat (world.run moves).nextTask).subset fun _ hasBeen =>
    lt_nextTask_of_reached numbered hasBeen

/-- A task under way that has been in a stage has come there from a point of that stage. -/
theorem exists_precedes_of_reached
    {number : Nat}
    {now : Task}
    (numbered : world.Numbered)
    (hasBeen : number ∈ world.reached moves stage)
    (isNow : (world.run moves).tasks number = some now) :
    ∃ first : Task, stage first ∧ first.Precedes now := by
  induction moves using List.reverseRecOn generalizing now with
  | nil =>
      rw [reached_nil] at hasBeen
      obtain ⟨first, underWay, atStage⟩ := hasBeen
      cases underWay.symm.trans isNow
      exact ⟨now, atStage, .refl now⟩
  | append_singleton earlier move inductionHypothesis =>
      rw [run_concat] at isNow
      rw [reached_concat] at hasBeen
      rcases hasBeen with hadBeen | ⟨first, underWay, atStage⟩
      · obtain ⟨before, wasUnderWay, precedes⟩ :=
          ((world.run earlier).leads_step move).exists_precedes
            (lt_nextTask_of_reached numbered hadBeen) isNow
        obtain ⟨first, atStage, precedesBefore⟩ := inductionHypothesis hadBeen wasUnderWay
        exact ⟨first, atStage, precedesBefore.trans precedes⟩
      · cases underWay.symm.trans isNow
        exact ⟨now, atStage, .refl now⟩

/-- Those who are in a stage after a step of a task. -/
theorem mem_inStage_settle
    {number query : Nat}
    (effect : Effect)
    (isOld : number < world.nextTask) :
    query ∈ (world.settle number effect).inStage stage ↔
      (query = world.nextTask ∧
          effect.refresh?.any fun reload => stage (.loading .background reload)) ∨
        (query = number ∧ effect.next?.any stage) ∨
        query ≠ world.nextTask ∧ query ≠ number ∧ query ∈ world.inStage stage := by
  by_cases isNext : query = world.nextTask
  · subst isNext
    simp [inStage, settle, isOld.ne', Option.any_eq_true]
  · by_cases isNumber : query = number
    · subst isNumber
      simp [inStage, settle, updateTask_other isNext, isNext, Option.any_eq_true]
    · simp [inStage, settle, updateTask_other isNext, updateTask_other isNumber, isNext, isNumber]

/-- A step adds to those who have been in a stage the task that takes it and its refresh. -/
theorem reached_union_settle
    {number : Nat}
    (effect : Effect)
    (isOld : number < (world.run moves).nextTask) :
    world.reached moves stage ∪ ((world.run moves).settle number effect).inStage stage =
      world.reached moves stage ∪ {other | other = number ∧ effect.next?.any stage} ∪
        {other | other = (world.run moves).nextTask ∧
          effect.refresh?.any fun reload => stage (.loading .background reload)} := by
  ext query
  have included := @world.inStage_subset_reached moves stage query
  simp only [Set.mem_union, mem_inStage_settle effect isOld, Set.mem_ofPred_eq]
  tauto

/-- Whoever comes to a stage by a step has been there before if and only if it comes from there. -/
theorem mem_reached_iff_of_next
    {number : Nat}
    {task next : Task}
    (isStage : Task.IsStage stage)
    (numbered : world.Numbered)
    (underWay : (world.run moves).tasks number = some task)
    (precedes : task.Precedes next)
    (atStage : stage next) :
    stage task ↔ number ∈ world.reached moves stage := by
  constructor
  · intro wasAtStage
    exact world.inStage_subset_reached moves stage ⟨task, underWay, wasAtStage⟩
  · intro hasBeen
    obtain ⟨first, firstAtStage, firstPrecedes⟩ :=
      exists_precedes_of_reached numbered hasBeen underWay
    exact isStage first task next firstPrecedes precedes firstAtStage atStage

/-- Each step adds its newcomers to those who have been in a stage. -/
theorem ncard_reached_settle
    {number : Nat}
    {task : Task}
    {effect : Effect}
    (isStage : Task.IsStage stage)
    (numbered : world.Numbered)
    (underWay : (world.run moves).tasks number = some task)
    (leads : task.Leads (world.run moves).service effect) :
    (world.reached moves stage ∪
        ((world.run moves).settle number effect).inStage stage).ncard =
      (world.reached moves stage).ncard + effect.newcomers task stage := by
  have isOld := (numbered.run moves).tasks number task underWay
  have finite : (world.reached moves stage).Finite := finite_reached numbered
  have comesIn :
      effect.next?.any stage → (stage task ↔ number ∈ world.reached moves stage) := by
    intro entering
    obtain ⟨next, goesOn, atStage⟩ := (Option.any_eq_true _ _).mp entering
    exact mem_reached_iff_of_next isStage numbered underWay (leads.precedes goesOn) atStage
  have isNew :
      (world.run moves).nextTask ∉
        world.reached moves stage ∪ {other | other = number ∧ effect.next?.any stage} := by
    rintro (hasBeen | ⟨same, -⟩)
    · exact absurd (lt_nextTask_of_reached numbered hasBeen) (Nat.lt_irrefl _)
    · exact absurd isOld (same ▸ Nat.lt_irrefl _)
  have finiteWithTask :
      (world.reached moves stage ∪
        {other | other = number ∧ effect.next?.any stage}).Finite :=
    finite.union ((Set.finite_singleton number).subset fun _ member => member.1)
  rw [reached_union_settle effect isOld,
    ncard_union_if finiteWithTask _ fun _ => iff_of_false Bool.false_ne_true isNew,
    ncard_union_if finite _ comesIn, Effect.newcomers, Nat.add_assoc, Bool.not_false,
    Bool.true_and]

/-- A count that rises in every step by the newcomers of a stage. -/
def Counts (counted : CacheCounts → Nat) (stage : Task → Bool) : Prop :=
  ∀ service task effect, Task.Leads service task effect →
    counted effect.service.cache.counts =
      counted service.cache.counts + effect.newcomers task stage

/-- A count of those who have been in a stage remains one with every way to go on. -/
theorem ncard_reached_of_leads
    {counted : CacheCounts → Nat}
    {next : World}
    (isStage : Task.IsStage stage)
    (isLate : ∀ operation, stage (.starting operation) = false)
    (counts : Counts counted stage)
    (numbered : world.Numbered)
    (soFar :
      (world.reached moves stage).ncard = counted (world.run moves).service.cache.counts)
    (leads : (world.run moves).Leads next) :
    (world.reached moves stage ∪ next.inStage stage).ncard =
      counted next.service.cache.counts := by
  -- Whatever is no step of a task brings nobody to the stage.
  have unchanged (noNew : next.inStage stage ⊆ (world.run moves).inStage stage) :
      (world.reached moves stage ∪ next.inStage stage).ncard =
        counted (world.run moves).service.cache.counts := by
    rw [← soFar,
      Set.union_eq_left.mpr (noNew.trans (world.inStage_subset_reached moves stage))]
  cases leads with
  | performed underWay leads =>
      rw [ncard_reached_settle isStage numbered underWay leads, soFar]
      exact (counts _ _ _ leads).symm
  | idle | advanced | outage => exact unchanged fun _ isIn => isIn
  | started operation =>
      refine unchanged fun query isIn => ?_
      obtain ⟨task, underWay, atStage⟩ := isIn
      rcases task_of_startTask underWay with ⟨-, rfl⟩ | before
      · rw [isLate] at atStage
        cases atStage
      · exact ⟨task, before, atStage⟩
  | @abandoned number reload underWay =>
      have same :
          ((world.run moves).giveUp number reload).service.cache.counts =
            (world.run moves).service.cache.counts := by
        unfold giveUp
        cases reload.existing? <;> rfl
      rw [same]
      refine unchanged fun query isIn => ?_
      obtain ⟨task, underWay, atStage⟩ := isIn
      exact ⟨task, task_of_giveUp underWay, atStage⟩

/-- Such a count tells at every point of a run how many tasks have been in the stage. -/
theorem ncard_reached
    {counted : CacheCounts → Nat}
    (isStage : Task.IsStage stage)
    (isLate : ∀ operation, stage (.starting operation) = false)
    (counts : Counts counted stage)
    (numbered : world.Numbered)
    (initially : (world.inStage stage).ncard = counted world.service.cache.counts)
    (moves : List Move) :
    (world.reached moves stage).ncard = counted (world.run moves).service.cache.counts := by
  induction moves using List.reverseRecOn with
  | nil => rwa [reached_nil]
  | append_singleton earlier move inductionHypothesis =>
      rw [reached_concat, run_concat]
      exact ncard_reached_of_leads isStage isLate counts numbered inductionHypothesis
        (leads_step _ move)

theorem ncard_reached_start
    {counted : CacheCounts → Nat}
    (lifetimes : Lifetimes)
    (texts : List (String × String))
    (isStage : Task.IsStage stage)
    (isLate : ∀ operation, stage (.starting operation) = false)
    (counts : Counts counted stage)
    (initially : counted {} = 0)
    (moves : List Move) :
    ((start lifetimes texts).reached moves stage).ncard =
      counted ((start lifetimes texts).run moves).service.cache.counts := by
  refine ncard_reached isStage isLate counts (numbered_start lifetimes texts) ?_ moves
  rw [inStage_start, Set.ncard_empty]
  exact initially.symm

/-- Those who have been in a stage and are in it no more. -/
def left (world : World) (moves : List Move) (stage : Task → Bool) : Set Nat :=
  world.reached moves stage \ (world.run moves).inStage stage

/-- Whoever has left a stage stays away from it. -/
theorem left_subset_concat
    (isStage : Task.IsStage stage)
    (numbered : world.Numbered)
    (move : Move) :
    world.left moves stage ⊆ world.left (moves ++ [move]) stage := by
  rintro number ⟨hasBeen, isOut⟩
  refine ⟨?_, ?_⟩
  · rw [reached_concat]
    exact .inl hasBeen
  · rw [run_concat]
    rintro ⟨now, isNow, atStage⟩
    obtain ⟨before, wasUnderWay, precedes⟩ :=
      ((world.run moves).leads_step move).exists_precedes
        (lt_nextTask_of_reached numbered hasBeen) isNow
    have wasAtStage :=
      (mem_reached_iff_of_next isStage numbered wasUnderWay precedes atStage).mpr hasBeen
    exact isOut ⟨before, wasUnderWay, wasAtStage⟩

end World

end LendingRules
