import LendingRules.Proofs.Interleaving.Generation
import LendingRules.Proofs.Interleaving.History
import LendingRules.Proofs.Interleaving.Provenance
import LendingRules.Proofs.Interleaving.StoredText
import Mathlib.Control.Monad.Basic

namespace LendingRules

/-!
# No rulebook survives an invalidation

Once everything cached for a tenant has been made invalid, whoever looks the
tenant up afterwards obtains a rulebook whose text was read afterwards, even if
reloads that began before finish later. What carries the proof is an invariant
of the time since the invalidation: the entry of the tenant was read anew, and
every task either holds a generation from before the invalidation, so that it
installs nothing, or has read anew all that it takes along.
-/

namespace World

/--
How a tenant stands since an invalidation after which its generation was
`epoch`. The history before it is `earlier`, the history after it `since`.
-/
structure RenewedSince
    (tenant : String)
    (epoch : Generation)
    (earlier since : List Occurrence)
    (world : World) : Prop where
  history : world.history = earlier ++ since
  forward : epoch.NotAfter (world.service.cache.generation tenant)
  cached :
    ∀ cached,
      world.service.cache.cached.get? tenant = some cached →
        cached.rulebook.ReadIn tenant since
  tasks :
    ∀ number task reload,
      world.tasks number = some task →
        task.reload? = some reload →
          reload.tenant = tenant →
            reload.generation.Before epoch ∨ task.ReadIn tenant since
  observers :
    ∀ number task,
      world.tasks number = some task →
        ⟨number, .observed tenant⟩ ∈ since →
          task.tenant? = some tenant ∧ task.ReadIn tenant since

namespace RenewedSince

variable
  {tenant : String}
  {epoch : Generation}
  {earlier since : List Occurrence}
  {world next : World}

/-- The invariant concerns only the entry, the generation, and the tasks. -/
theorem of_unchanged
    (renewed : world.RenewedSince tenant epoch earlier since)
    (sameHistory : next.history = world.history)
    (sameGeneration :
      next.service.cache.generation tenant = world.service.cache.generation tenant)
    (sameCached :
      next.service.cache.cached.get? tenant = world.service.cache.cached.get? tenant)
    (oldTask :
      ∀ number task,
        next.tasks number = some task →
          world.tasks number = some task ∨
            (number = world.nextTask ∧ task.reload? = none))
    (numbered : world.Numbered) :
    next.RenewedSince tenant epoch earlier since where
  history := by rw [sameHistory, renewed.history]
  forward := by rw [sameGeneration]; exact renewed.forward
  cached := by rw [sameCached]; exact renewed.cached
  tasks := by
    intro number task reload underWay takes ofTenant
    rcases oldTask number task underWay with before | ⟨-, takesNothing⟩
    · exact renewed.tasks number task reload before takes ofTenant
    · rw [takesNothing] at takes
      cases takes
  observers := by
    intro number task underWay observed
    rcases oldTask number task underWay with before | ⟨rfl, -⟩
    · exact renewed.observers number task before observed
    · have known : (⟨world.nextTask, .observed tenant⟩ : Occurrence) ∈ world.history := by
        rw [renewed.history]
        exact List.mem_append_right earlier observed
      exact absurd (numbered.history _ known) (Nat.lt_irrefl _)

/--
A task of the present generation holds only what was read since, for it cannot
have looked its tenant up before the invalidation.
-/
theorem readIn_of_present
    {number : Nat}
    {task : Task}
    {reload : Reload}
    (renewed : world.RenewedSince tenant epoch earlier since)
    (underWay : world.tasks number = some task)
    (takes : task.reload? = some reload)
    (ofTenant : reload.tenant = tenant)
    (present : reload.generation = world.service.cache.generation tenant) :
    task.ReadIn tenant since := by
  rcases renewed.tasks number task reload underWay takes ofTenant with before | readIn
  · rw [present] at before
    exact absurd (before.of_notAfter renewed.forward)
      (Generation.not_before_self _)
  · exact readIn

/-- A step of a task keeps the invariant, its own occurrence included. -/
theorem settle
    {number : Nat}
    {task : Task}
    {effect : Effect}
    (renewed : world.RenewedSince tenant epoch earlier since)
    (numbered : world.Numbered)
    (underWay : world.tasks number = some task)
    (leads : task.Leads world.service effect) :
    (world.settle number effect).RenewedSince tenant epoch earlier
      (since ++ effect.event?.toList.map (⟨number, ·⟩)) := by
  have included := List.subset_append_left since
    (effect.event?.toList.map (⟨number, ·⟩ : Event → Occurrence))
  constructor
  case history =>
    rw [World.settle, renewed.history, List.append_assoc]
  case forward =>
    exact renewed.forward.trans (leads.notAfter tenant)
  case cached =>
    intro cached present
    rcases leads.cached_after present with
      before | ⟨role, reload, now, rfl, ofTenant, presentGeneration⟩
    · exact (renewed.cached cached before).mono included
    · have readIn :=
        renewed.readIn_of_present underWay rfl ofTenant presentGeneration
      exact Rulebook.ReadIn.mono included readIn
  case tasks =>
    intro query other reload otherUnderWay takes ofTenant
    rcases task_of_settle otherUnderWay with
      ⟨-, refresh, refreshed, rfl⟩ | ⟨-, goesOn⟩ | ⟨-, before⟩
    · cases takes
      have took := leads.reload?_of_refresh refreshed
      rcases renewed.tasks number task reload underWay took ofTenant with
        outdated | readIn
      · exact .inl outdated
      · exact .inr ((leads.readIn_refresh refreshed readIn).mono included)
    · rcases leads.reload?_next goesOn takes with
        took | ⟨⟨now, lifetimes, rfl⟩, -⟩
      · rcases renewed.tasks number task reload underWay took ofTenant with
          outdated | readIn
        · exact .inl outdated
        · have serves : task.tenant? = some tenant := by
            rw [Task.tenant?_of_reload? took, ofTenant]
          exact .inr (leads.readIn_next goesOn serves readIn renewed.cached)
      · have serves :
            (Task.configured reload.tenant now lifetimes).tenant? = some tenant := by
          rw [Task.tenant?, ofTenant]
        exact .inr (leads.readIn_next goesOn serves trivial renewed.cached)
    · rcases renewed.tasks query other reload before takes ofTenant with
        outdated | readIn
      · exact .inl outdated
      · exact .inr (readIn.mono included)
  case observers =>
    intro query other otherUnderWay observed
    have ofNumber := numbered.tasks number task underWay
    rcases task_of_settle otherUnderWay with
      ⟨rfl, -⟩ | ⟨rfl, goesOn⟩ | ⟨different, before⟩
    · -- A refresh that starts just now has a number that no occurrence bears yet.
      rcases List.mem_append.mp observed with observedBefore | observedNow
      · have known : (⟨world.nextTask, .observed tenant⟩ : Occurrence) ∈ world.history := by
          rw [renewed.history]
          exact List.mem_append_right earlier observedBefore
        exact absurd (numbered.history _ known) (Nat.lt_irrefl _)
      · obtain ⟨event, -, same⟩ := List.mem_map.mp observedNow
        cases same
        exact absurd ofNumber (Nat.lt_irrefl _)
    · have holds : task.tenant? = some tenant ∧ task.ReadIn tenant since := by
        rcases List.mem_append.mp observed with observedBefore | observedNow
        · exact renewed.observers query task underWay observedBefore
        · obtain ⟨event, happened, same⟩ := List.mem_map.mp observedNow
          cases same
          obtain ⟨now, lifetimes, rfl⟩ :=
            leads.of_observed (Option.mem_toList.mp happened)
          exact ⟨rfl, trivial⟩
      exact ⟨leads.tenant?_next goesOn holds.1,
        leads.readIn_next goesOn holds.1 holds.2 renewed.cached⟩
    · rcases List.mem_append.mp observed with observedBefore | observedNow
      · obtain ⟨serves, readIn⟩ := renewed.observers query other before observedBefore
        exact ⟨serves, readIn.mono included⟩
      · obtain ⟨event, -, same⟩ := List.mem_map.mp observedNow
        cases same
        exact absurd rfl different

/-- Every way to go on keeps the invariant. -/
theorem of_leads
    (leads : world.Leads next)
    (numbered : world.Numbered)
    (renewed : world.RenewedSince tenant epoch earlier since) :
    ∃ added, next.RenewedSince tenant epoch earlier (since ++ added) := by
  cases leads with
  | performed underWay leads =>
      exact ⟨_, renewed.settle numbered underWay leads⟩
  | idle =>
      exact ⟨[], by rwa [List.append_nil]⟩
  | started operation =>
      refine ⟨[], ?_⟩
      rw [List.append_nil]
      refine renewed.of_unchanged rfl rfl rfl ?_ numbered
      intro number task underWay
      rcases task_of_startTask underWay with ⟨isNext, rfl⟩ | before
      · exact .inr ⟨isNext, rfl⟩
      · exact .inl before
  | @abandoned number reload underWay =>
      refine ⟨[], ?_⟩
      rw [List.append_nil]
      refine renewed.of_unchanged rfl ?_ ?_ ?_ numbered
      · unfold giveUp
        cases reload.existing? <;> rfl
      · unfold giveUp
        cases reload.existing? <;> rfl
      · exact fun query task underWay => .inl (task_of_giveUp underWay)
  | advanced | outage =>
      refine ⟨[], ?_⟩
      rw [List.append_nil]
      exact renewed.of_unchanged rfl rfl rfl (fun _ _ underWay => .inl underWay) numbered

/-- The invariant holds throughout the run that follows an invalidation. -/
theorem run
    (renewed : world.RenewedSince tenant epoch earlier since)
    (numbered : world.Numbered)
    (moves : List Move) :
    ∃ added, (world.run moves).RenewedSince tenant epoch earlier (since ++ added) := by
  have preserved :
      ∀ before after : World,
        before.Leads after →
          (before.Numbered ∧
              ∃ added, before.RenewedSince tenant epoch earlier (since ++ added)) →
            after.Numbered ∧
              ∃ added, after.RenewedSince tenant epoch earlier (since ++ added) := by
    rintro before after leads ⟨beforeNumbered, added, beforeRenewed⟩
    obtain ⟨more, afterRenewed⟩ := beforeRenewed.of_leads leads beforeNumbered
    refine ⟨beforeNumbered.of_leads leads, added ++ more, ?_⟩
    rwa [← List.append_assoc]
  have initially : ∃ added, world.RenewedSince tenant epoch earlier (since ++ added) :=
    ⟨[], by rwa [List.append_nil]⟩
  exact (run_induction preserved ⟨numbered, initially⟩ moves).2

/-- Right after an invalidation nothing of the tenant is left. -/
theorem of_invalidation
    {occurrence : Occurrence}
    (leads : world.Leads next)
    (noneAhead : world.NoneAhead)
    (grown : next.history = world.history ++ [occurrence])
    (invalidates : occurrence.event.Invalidates tenant) :
    next.RenewedSince tenant (next.service.cache.generation tenant) next.history [] := by
  obtain ⟨task, effect, -, taskLeads, happened, rfl⟩ := leads.of_history grown
  obtain ⟨ends, noRefresh, removed, before⟩ :=
    taskLeads.of_invalidates happened invalidates
  constructor
  case history => exact (List.append_nil _).symm
  case forward => exact .refl _
  case cached =>
    intro cached present
    exact absurd (present.symm.trans removed) (by simp)
  case tasks =>
    intro query other reload otherUnderWay takes ofTenant
    rcases task_of_settle otherUnderWay with
      ⟨-, refresh, refreshed, -⟩ | ⟨-, goesOn⟩ | ⟨-, otherBefore⟩
    · exact absurd (refreshed.symm.trans noRefresh) (by simp)
    · exact absurd (goesOn.symm.trans ends) (by simp)
    · have notAhead := noneAhead query other reload otherBefore takes
      rw [ofTenant] at notAhead
      exact .inl (notAhead.before_of_before before)
  case observers =>
    intro query other otherUnderWay observed
    cases observed

end RenewedSince

/-- In every run nobody bears a later number and no generation is ahead. -/
theorem numbered_and_noneAhead_run
    (lifetimes : Lifetimes)
    (texts : List (String × String))
    (moves : List Move) :
    ((start lifetimes texts).run moves).Numbered ∧
      ((start lifetimes texts).run moves).NoneAhead := by
  have initially :
      (start lifetimes texts).Numbered ∧ (start lifetimes texts).NoneAhead := by
    refine ⟨numbered_start lifetimes texts, ?_⟩
    intro number task reload underWay
    simp [start] at underWay
  have preserved :
      ∀ before after : World,
        before.Leads after →
          before.Numbered ∧ before.NoneAhead → after.Numbered ∧ after.NoneAhead :=
    fun before after leads both => ⟨both.1.of_leads leads, both.2.of_leads leads⟩
  exact run_induction preserved initially moves

/--
A get that looks its tenant up after an invalidation obtains a rulebook whose
text was read after the invalidation.
-/
theorem readIn_of_obtained
    {lifetimes : Lifetimes}
    {texts : List (String × String)}
    {moves : List Move}
    {tenant : String}
    {earlier between later : List Occurrence}
    {invalidation : Occurrence}
    {get : Nat}
    {rulebook : Rulebook}
    (shape :
      ((start lifetimes texts).run moves).history =
        earlier ++
          invalidation :: (between ++ ⟨get, .obtained tenant (.ok rulebook)⟩ :: later))
    (invalidates : invalidation.event.Invalidates tenant)
    (observed : ⟨get, .observed tenant⟩ ∈ between) :
    rulebook.ReadIn tenant between := by
  obtain ⟨first, move, second, answer, invalidated, unanswered, answered⟩ :=
    exists_cut_of_history rfl shape
  obtain ⟨numbered, noneAhead⟩ := numbered_and_noneAhead_run lifetimes texts first
  have leads := ((start lifetimes texts).run first).leads_step move
  have renewed :=
    RenewedSince.of_invalidation leads noneAhead invalidated invalidates
  obtain ⟨added, still⟩ := renewed.run (numbered.of_leads leads) second
  have onlyBetween : [] ++ added = between :=
    List.append_cancel_left (still.history.symm.trans unanswered)
  rw [onlyBetween] at still
  obtain ⟨task, effect, underWay, taskLeads, happened, -⟩ :=
    (leads_step _ answer).of_history answered
  obtain rfl := taskLeads.of_obtained happened
  exact (still.observers get _ underWay observed).2 rulebook rfl

/--
No rulebook survives an invalidation: however operations interleave, whoever
looks a tenant up after an invalidation and is given a rulebook is given one of
a text that was read after the invalidation. So from a replacement that
invalidates until the text is next written, every get that looks the tenant up
after the replacement is given the rulebook of the replacing text.
-/
theorem no_rulebook_survives_invalidation
    (lifetimes : Lifetimes)
    (texts : List (String × String))
    (moves : List Move)
    (tenant : String) :
    (∀ earlier between later invalidation get rulebook,
      ((start lifetimes texts).run moves).history =
          earlier ++
            invalidation :: (between ++ ⟨get, .obtained tenant (.ok rulebook)⟩ :: later) →
        invalidation.event.Invalidates tenant →
          ⟨get, .observed tenant⟩ ∈ between →
            ∃ reader text,
              ⟨reader, .loaded tenant (.ok text)⟩ ∈ between ∧
                Rulebook.ofText text = .ok rulebook) ∧
      ∀ earlier during between later replacement get text rulebook,
        ((start lifetimes texts).run moves).history =
            earlier ++
              ⟨replacement, .wrote tenant text⟩ :: (during ++
                ⟨replacement, .replaced tenant text true⟩ :: (between ++
                  ⟨get, .obtained tenant (.ok rulebook)⟩ :: later)) →
          (∀ writer written, ⟨writer, .wrote tenant written⟩ ∉ during ++ between) →
            ⟨get, .observed tenant⟩ ∈ between →
              Rulebook.ofText text = .ok rulebook ∧
                rulebook.digest = Digest.ofText text := by
  constructor
  · intro earlier between later invalidation get rulebook shape invalidates observed
    exact readIn_of_obtained shape invalidates observed
  · intro earlier during between later replacement get text rulebook shape unwritten observed
    have regrouped :
        ((start lifetimes texts).run moves).history =
          (earlier ++ ⟨replacement, .wrote tenant text⟩ :: during) ++
            ⟨replacement, .replaced tenant text true⟩ :: (between ++
              ⟨get, .obtained tenant (.ok rulebook)⟩ :: later) := by
      rw [shape, List.append_assoc, List.cons_append]
    obtain ⟨reader, read, loaded, compiled⟩ :=
      readIn_of_obtained regrouped ⟨rfl, rfl⟩ observed
    have fromWrite :
        ((start lifetimes texts).run moves).history =
          earlier ++
            ⟨replacement, .wrote tenant text⟩ ::
              ((during ++ ⟨replacement, .replaced tenant text true⟩ :: between) ++
                ⟨get, .obtained tenant (.ok rulebook)⟩ :: later) := by
      rw [shape]
      simp only [List.append_assoc, List.cons_append]
    obtain ⟨first, move, second, -, wrote, ran, -⟩ :=
      exists_cut_of_history rfl fromWrite
    have leads := ((start lifetimes texts).run first).leads_step move
    have unwrittenThroughout :
        ∀ writer written,
          ⟨writer, .wrote tenant written⟩ ∉
            during ++ ⟨replacement, .replaced tenant text true⟩ :: between := by
      intro writer written member
      rcases List.mem_append.mp member with inDuring | afterDuring
      · exact unwritten writer written (List.mem_append_left between inDuring)
      · rcases List.mem_cons.mp afterDuring with isReplacement | inBetween
        · cases isReplacement
        · exact unwritten writer written (List.mem_append_right during inBetween)
    have loadedThroughout :
        ⟨reader, .loaded tenant (.ok read)⟩ ∈
          during ++ ⟨replacement, .replaced tenant text true⟩ :: between :=
      List.mem_append_right during (List.mem_cons_of_mem _ loaded)
    obtain rfl : read = text :=
      eq_of_loaded leads wrote ran unwrittenThroughout loadedThroughout
    exact ⟨compiled, Rulebook.digest_of_ofText compiled⟩

/-- Two texts of which the second replaces the first. -/
def replacedText : String :=
  "priority: last-line\nfallback-policy: l old"

/-- The text that replaces `replacedText`. -/
def replacingText : String :=
  "priority: last-line\nfallback-policy: l new"

theorem digest_replacedText_ne : Digest.ofText replacedText ≠ Digest.ofText replacingText := by
  decide +kernel

/-- Of the two texts, one is told from the other by its digest. -/
theorem eq_of_digest_eq
    {first second : String}
    (firstOneOf : first = replacedText ∨ first = replacingText)
    (secondOneOf : second = replacedText ∨ second = replacingText)
    (same : Digest.ofText first = Digest.ofText second) :
    first = second := by
  rcases firstOneOf with rfl | rfl <;> rcases secondOneOf with rfl | rfl
  · rfl
  · exact absurd same digest_replacedText_ne
  · exact absurd same.symm digest_replacedText_ne
  · rfl

/--
A reload reads the old text. Then the text is replaced, somebody looks the
tenant up, and the first reload finishes before the second one does.
-/
def overtakenReload : List Move :=
  .start (.get "t") :: List.replicate 5 (.perform 0) ++
    .start (.replaceText "t" replacingText true) :: List.replicate 2 (.perform 6) ++
      .start (.get "t") :: List.replicate 3 (.perform 9) ++
        List.replicate 4 (.perform 0) ++ List.replicate 6 (.perform 9)

theorem history_overtakenReload
    {old new : Rulebook}
    (oldCompiled : Rulebook.ofText replacedText = .ok old)
    (newCompiled : Rulebook.ofText replacingText = .ok new) :
    ((start {} [("t", replacedText)]).run overtakenReload).history =
      [⟨0, .observed "t"⟩, ⟨0, .loaded "t" (.ok replacedText)⟩] ++
        ⟨6, .wrote "t" replacingText⟩ :: ([] ++
          ⟨6, .replaced "t" replacingText true⟩ ::
            ([⟨9, .observed "t"⟩, ⟨0, .obtained "t" (.ok old)⟩,
              ⟨9, .loaded "t" (.ok replacingText)⟩] ++
                ⟨9, .obtained "t" (.ok new)⟩ :: [])) := by
  generalize replacedText = oldText at oldCompiled
  simp [overtakenReload, run, step, start, startTask, performTask, settle, updateTask,
    Operation.begin, Task.advance, ReloadRole.conclude?, Service.start, Service.load,
    Service.saveText, Service.withCache, TextStore.ofPairs, TextStore.load,
    TextStore.text, TextStore.save, TenantMap.ofPairs, TenantMap.get?, TenantMap.insert,
    TenantMap.erase, TenantMap.empty, Cache.empty, Cache.observe, Cache.proceed,
    Cache.countMiss, Cache.resolve, Cache.install, Cache.invalidate, Cache.generation,
    oldCompiled, newCompiled]

/-- The get that began after the replacement is given the replacing text's rulebook. -/
theorem overtakenReload_obtains_replacing :
    ∃ old new : Rulebook,
      Rulebook.ofText replacedText = .ok old ∧
        ((start {} [("t", replacedText)]).run overtakenReload).history =
            [⟨0, .observed "t"⟩, ⟨0, .loaded "t" (.ok replacedText)⟩,
              ⟨6, .wrote "t" replacingText⟩, ⟨6, .replaced "t" replacingText true⟩,
              ⟨9, .observed "t"⟩, ⟨0, .obtained "t" (.ok old)⟩,
              ⟨9, .loaded "t" (.ok replacingText)⟩, ⟨9, .obtained "t" (.ok new)⟩] ∧
          (∃ reader text,
            (⟨reader, .loaded "t" (.ok text)⟩ : Occurrence) ∈
                [⟨9, .observed "t"⟩, ⟨0, .obtained "t" (.ok old)⟩,
                  ⟨9, .loaded "t" (.ok replacingText)⟩] ∧
              Rulebook.ofText text = .ok new) ∧
            Rulebook.ofText replacingText = .ok new ∧
              new.digest = Digest.ofText replacingText := by
  have oldRead :
      Document.ofText replacedText =
        .ok ⟨1, [⟨11, .line .lastLine⟩], [⟨2, 0, .fallback ⟨16, [⟨.loan, "old", 18⟩]⟩⟩]⟩ := by
    decide +kernel
  have newRead :
      Document.ofText replacingText =
        .ok ⟨1, [⟨11, .line .lastLine⟩], [⟨2, 0, .fallback ⟨16, [⟨.loan, "new", 18⟩]⟩⟩]⟩ := by
    decide +kernel
  have oldCompiled :=
    Rulebook.ofText_eq_ok_iff.mpr ⟨_, _, _, oldRead, rfl, rfl, rfl⟩
  have newCompiled :=
    Rulebook.ofText_eq_ok_iff.mpr ⟨_, _, _, newRead, rfl, rfl, rfl⟩
  have ran := history_overtakenReload oldCompiled newCompiled
  obtain ⟨survivesNone, replacingServed⟩ :=
    no_rulebook_survives_invalidation {} [("t", replacedText)] overtakenReload "t"
  refine ⟨_, _, oldCompiled, ran, ?_, ?_⟩
  · exact survivesNone (_ :: _ :: [_]) _ _ _ _ _ ran ⟨rfl, rfl⟩ List.mem_cons_self
  · exact replacingServed _ [] _ _ _ _ _ _ ran (by simp) List.mem_cons_self

end World

end LendingRules
