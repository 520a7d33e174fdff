import LendingRules.Proofs.Interleaving.Entries
import LendingRules.Proofs.Interleaving.Invalidation
import Mathlib.Data.List.Induction

namespace LendingRules

/-!
# What the age of an entry counts from

A reload looks at the clock when it has a rulebook to install, not when it reads
the text. So an entry is younger than its text by the time that passed between the
two, and may be served that much longer. Of a run it is told at which move a reload
read its text, and which moves lay between the read and the look at the clock.
-/

/-- The time that passes in a move. -/
def Move.span : Move → Nat
  | .advance span => span
  | _ => 0

/-- The time that passes in a run. -/
def elapsed : List Move → Nat
  | [] => 0
  | move :: rest => move.span + elapsed rest

/-- No step of a task takes time. -/
theorem Task.Leads.now
    {service : Service}
    {task : Task}
    {effect : Effect}
    (leads : task.Leads service effect) :
    effect.service.now = service.now := by
  cases leads with
  | replaced tenant text invalidates => cases invalidates <;> rfl
  | _ => rfl

namespace World

/-- In a move as much time passes as it says. -/
theorem now_step (world : World) (move : Move) :
    (world.step move).service.now = world.service.now + move.span := by
  cases move with
  | perform number =>
      simp only [step, performTask]
      split
      · rfl
      · rename_i task underWay
        exact (task.leads_advance world.service).now
  | abandon number =>
      simp only [step, abandonTask]
      split
      · rename_i reload underWay
        unfold giveUp
        cases reload.existing? <;> rfl
      · rfl
  | start | advance | setOutage => rfl

/-- In a run as much time passes as in its moves. -/
theorem now_run (world : World) (moves : List Move) :
    (world.run moves).service.now = world.service.now + elapsed moves := by
  induction moves generalizing world with
  | nil => rfl
  | cons move rest inductionHypothesis =>
      rw [run_cons, inductionHypothesis, now_step, elapsed, Nat.add_assoc]

/-- After some moves a reload of a tenant is about to read a text. -/
structure ReadsAfter
    (world : World)
    (before : List Move)
    (reader : Nat)
    (tenant text : String) : Prop where
  underWay :
    ∃ role reload,
      (world.run before).tasks reader = some (.loading role reload) ∧ reload.tenant = tenant
  stored : (world.run before).service.store.text tenant = .ok text

end World

/--
What a task that reloads goes by was read in a run: the text itself, or one with the
digest of its rulebook. The time that it bears is that of its look at the clock.
-/
def Task.TracedIn (world : World) (moves : List Move) (number : Nat) : Task → Prop
  | resolving _ reload text =>
      ∃ before delay,
        moves = before ++ .perform number :: delay ∧
          world.ReadsAfter before number reload.tenant text
  | stamping _ reload rulebook =>
      ∃ before delay text,
        moves = before ++ .perform number :: delay ∧
          world.ReadsAfter before number reload.tenant text ∧
          rulebook.digest = Digest.ofText text
  | installing role reload rulebook now =>
      ∃ before delay rest text,
        moves = before ++ .perform number :: delay ++ .perform number :: rest ∧
          world.ReadsAfter before number reload.tenant text ∧
          (world.run (before ++ .perform number :: delay)).tasks number =
            some (.stamping role reload rulebook) ∧
          rulebook.digest = Digest.ofText text ∧
          now = (world.run before).service.now + elapsed delay
  | _ => True

/-- What was traced in a run is traced in a longer one. -/
theorem Task.TracedIn.concat
    {world : World}
    {moves : List Move}
    {number : Nat}
    {task : Task}
    (traced : task.TracedIn world moves number)
    (move : Move) :
    task.TracedIn world (moves ++ [move]) number := by
  cases task with
  | resolving role reload text =>
      obtain ⟨before, delay, rfl, reads⟩ := traced
      exact ⟨before, delay ++ [move], by simp, reads⟩
  | stamping role reload rulebook =>
      obtain ⟨before, delay, text, rfl, reads, same⟩ := traced
      exact ⟨before, delay ++ [move], text, by simp, reads, same⟩
  | installing role reload rulebook now =>
      obtain ⟨before, delay, rest, text, rfl, reads, stamps, same, time⟩ := traced
      exact ⟨before, delay, rest ++ [move], text, by simp, reads, stamps, same, time⟩
  | _ => trivial

/-- A task whose reload is traced goes on with one that is traced. -/
theorem Task.Leads.tracedIn_next
    {world : World}
    {moves : List Move}
    {number : Nat}
    {task next : Task}
    {effect : Effect}
    (leads : task.Leads (world.run moves).service effect)
    (underWay : (world.run moves).tasks number = some task)
    (traced : task.TracedIn world moves number)
    (goesOn : effect.next? = some next) :
    next.TracedIn world (moves ++ [.perform number]) number := by
  cases leads with
  | loaded role success =>
      cases goesOn
      exact ⟨moves, [], rfl, ⟨role, _, underWay, rfl⟩, success⟩
  | revalidate role found same =>
      cases goesOn
      obtain ⟨before, delay, rfl, reads⟩ := traced
      exact ⟨before, delay ++ [.perform number], _, by simp, reads, same⟩
  | recompile role reload compiled =>
      cases goesOn
      obtain ⟨before, delay, rfl, reads⟩ := traced
      exact ⟨before, delay ++ [.perform number], _, by simp, reads,
        Rulebook.digest_of_ofText compiled⟩
  | stamp role reload rulebook =>
      cases goesOn
      obtain ⟨before, delay, text, rfl, reads, same⟩ := traced
      refine ⟨before, delay, [], text, rfl, reads, underWay, same, ?_⟩
      rw [World.run_append, World.run_cons, World.now_run, World.now_step]
      rfl
  | unloaded role | fail role | install role =>
      cases role <;> cases goesOn
      trivial
  | _ => first | (cases goesOn; done) | (cases goesOn; trivial)

namespace World

/--
An entry was brought in by a reload that read a text with its digest and, after a
delay, looked at the clock: the entry bears the time of that look.
-/
structure DatesFrom
    (world : World)
    (moves : List Move)
    (tenant : String)
    (cached : CachedRulebook)
    (before : List Move)
    (reader : Nat)
    (delay rest : List Move)
    (text : String) : Prop where
  split : moves = before ++ .perform reader :: delay ++ .perform reader :: rest
  reads : world.ReadsAfter before reader tenant text
  stamps :
    ∃ role reload,
      (world.run (before ++ .perform reader :: delay)).tasks reader =
        some (.stamping role reload cached.rulebook)
  digest : cached.rulebook.digest = Digest.ofText text
  loadedAt : cached.loadedAt = (world.run before).service.now + elapsed delay

/-- All reloads under way and all entries are traced to a text that was read. -/
structure Traced (world : World) (moves : List Move) : Prop where
  tasks :
    ∀ number task, (world.run moves).tasks number = some task →
      task.TracedIn world moves number
  cached :
    ∀ tenant cached,
      (world.run moves).service.cache.cached.get? tenant = some cached →
        ∃ before reader delay rest text,
          world.DatesFrom moves tenant cached before reader delay rest text

theorem DatesFrom.concat
    {world : World}
    {moves before delay rest : List Move}
    {tenant text : String}
    {cached : CachedRulebook}
    {reader : Nat}
    (dates : world.DatesFrom moves tenant cached before reader delay rest text)
    (move : Move) :
    world.DatesFrom (moves ++ [move]) tenant cached before reader delay (rest ++ [move]) text :=
  { dates with split := by simp [dates.split] }

/-- One more move keeps all traced. -/
theorem Traced.concat
    {world : World}
    {moves : List Move}
    (traced : world.Traced moves)
    (move : Move) :
    world.Traced (moves ++ [move]) := by
  have ran := world.run_concat moves move
  constructor
  case tasks =>
    intro query task underWay
    rw [ran] at underWay
    -- Whoever did not go on has been traced before.
    have others (before : (world.run moves).tasks query = some task) :=
      (traced.tasks query task before).concat move
    cases move with
    | start operation =>
        rcases task_of_startTask underWay with ⟨-, rfl⟩ | before
        · trivial
        · exact others before
    | perform number =>
        simp only [step, performTask] at underWay
        split at underWay
        · exact others underWay
        · rename_i performing wasUnderWay
          have leads := performing.leads_advance (world.run moves).service
          rcases task_of_settle underWay with
            ⟨-, reload, -, rfl⟩ | ⟨rfl, goesOn⟩ | ⟨-, before⟩
          · trivial
          · exact leads.tracedIn_next wasUnderWay (traced.tasks _ _ wasUnderWay) goesOn
          · exact others before
    | abandon number =>
        simp only [step, abandonTask] at underWay
        split at underWay
        · exact others (task_of_giveUp underWay)
        · exact others underWay
    | advance | setOutage => exact others underWay
  case cached =>
    intro tenant cached present
    rw [ran] at present
    rcases (world.run moves).keepsEntry move tenant with
      stays | ⟨number, task, rfl, underWay, ⟨-, gone⟩ | installs⟩
    · obtain ⟨before, reader, delay, rest, text, dates⟩ :=
        traced.cached tenant cached (stays.symm.trans present)
      exact ⟨before, reader, delay, _, text, dates.concat move⟩
    · exact absurd (present.symm.trans gone) (by simp)
    · obtain ⟨role, reload, rulebook, now, rfl, rfl, installed⟩ := installs
      cases present.symm.trans installed
      obtain ⟨before, delay, rest, text, rfl, reads, stamps, same, time⟩ :=
        traced.tasks number _ underWay
      exact ⟨before, number, delay, rest ++ [.perform number], text, by simp, reads,
        ⟨role, reload, stamps⟩, same, time⟩

/-- In every run from the start all is traced. -/
theorem traced_start
    (lifetimes : Lifetimes)
    (texts : List (String × String))
    (moves : List Move) :
    (start lifetimes texts).Traced moves := by
  induction moves using List.reverseRecOn with
  | nil =>
      constructor
      · intro number task underWay
        cases underWay
      · intro tenant cached present
        cases present
  | append_singleton earlier move inductionHypothesis => exact inductionHypothesis.concat move

/--
The age of an entry counts from the look at the clock of its reload. Some time may
have passed since the reload read the text, and by that time the entry is dated late:
it bears no later time than that of the read if and only if no time passed, and it is
served until the expiry age has passed since the read and that time besides.
-/
theorem entry_dated_after_delay
    (lifetimes : Lifetimes)
    (texts : List (String × String))
    (moves : List Move)
    (tenant : String)
    (cached : CachedRulebook)
    (present :
      ((start lifetimes texts).run moves).service.cache.cached.get? tenant = some cached) :
    ∃ before reader delay rest text,
      (start lifetimes texts).DatesFrom moves tenant cached before reader delay rest text ∧
        (cached.loadedAt ≤ ((start lifetimes texts).run before).service.now ↔
          elapsed delay = 0) ∧
        ∀ lifetimesThen now,
          cached.freshness lifetimesThen now ≠ .expired ↔
            0 < lifetimesThen.expiryAge ∧
              now <
                ((start lifetimes texts).run before).service.now + elapsed delay +
                  lifetimesThen.expiryAge := by
  obtain ⟨before, reader, delay, rest, text, dates⟩ :=
    (traced_start lifetimes texts moves).cached tenant cached present
  refine ⟨before, reader, delay, rest, text, dates, ?_, ?_⟩
  · have later (read delay : Nat) : read + delay ≤ read ↔ delay = 0 := by omega
    rw [dates.loadedAt]
    exact later _ _
  · intro lifetimesThen now
    have window (now loaded expiry : Nat) :
        now - loaded < expiry ↔ 0 < expiry ∧ now < loaded + expiry := by omega
    rw [← dates.loadedAt, cached.unexpired_iff]
    exact window _ _ _

/--
A reload reads a text at time zero. Until it looks at the clock, the expiry age
passes and the text is written anew. Then somebody else gets the rulebook.
-/
def slowReload : List Move :=
  .start (.get "t") :: List.replicate 5 (.perform 0) ++
    .advance (.ofSeconds 5) :: .start (.save "t" replacingText) :: .perform 6 ::
      List.replicate 4 (.perform 0) ++ .start (.get "t") :: List.replicate 5 (.perform 12)

/-- What a slow reload leaves behind: its entry bears the time at which it was finished. -/
theorem run_slowReload {old : Rulebook} (compiled : Rulebook.ofText replacedText = .ok old) :
    ((start {} [("t", replacedText)]).run slowReload).service.cache.cached.get? "t" =
        some { rulebook := old, loadedAt := Span.ofSeconds 5, serial := 0 } ∧
      ((start {} [("t", replacedText)]).run slowReload).service.now = Span.ofSeconds 5 ∧
      ((start {} [("t", replacedText)]).run slowReload).history =
        [⟨0, .observed "t"⟩, ⟨0, .loaded "t" (.ok replacedText)⟩, ⟨6, .wrote "t" replacingText⟩,
          ⟨0, .obtained "t" (.ok old)⟩, ⟨12, .observed "t"⟩, ⟨12, .obtained "t" (.ok old)⟩] := by
  generalize replacedText = oldText at compiled
  simp [slowReload, run, step, start, startTask, performTask, settle, updateTask,
    Operation.begin, Task.advance, ReloadRole.conclude?, Service.start, Service.load,
    Service.saveText, Service.withCache, Service.advance, TextStore.ofPairs, TextStore.load,
    TextStore.text, TextStore.save, TenantMap.ofPairs, TenantMap.get?, TenantMap.insert,
    TenantMap.erase, TenantMap.empty, Cache.empty, Cache.observe, Cache.proceed,
    Cache.countMiss, Cache.countHit, Cache.resolve, Cache.install, Cache.generation,
    CachedRulebook.freshness, CachedRulebook.age, Lifetimes.expiryAge, Lifetimes.refreshAge,
    Span.ofSeconds, Span.ofMillis, compiled]

theorem exists_replaced : ∃ old : Rulebook, Rulebook.ofText replacedText = .ok old :=
  Rulebook.exists_of_accepted (by decide +kernel)

/-- The slow reload reads its text at time zero. -/
theorem readsAfter_slowReload :
    (start {} [("t", replacedText)]).ReadsAfter (slowReload.take 5) 0 "t" replacedText ∧
      ((start {} [("t", replacedText)]).run (slowReload.take 5)).service.now = 0 := by
  refine ⟨⟨⟨.foreground, _, rfl, rfl⟩, rfl⟩, rfl⟩

/--
A text is read at time zero, and at the expiry age its rulebook is still served although
another text is stored by then: the entry bears a later time than that of the read.
-/
theorem slowReload_serves_past_expiry :
    ∃ cached,
      ((start {} [("t", replacedText)]).run slowReload).service.cache.cached.get? "t" =
          some cached ∧
        Rulebook.ofText replacedText = .ok cached.rulebook ∧
        (start {} [("t", replacedText)]).ReadsAfter (slowReload.take 5) 0 "t" replacedText ∧
        ¬ cached.loadedAt ≤
          ((start {} [("t", replacedText)]).run (slowReload.take 5)).service.now ∧
        ((start {} [("t", replacedText)]).run (slowReload.take 5)).service.now +
            Lifetimes.expiryAge {} ≤
          ((start {} [("t", replacedText)]).run slowReload).service.now ∧
        ((start {} [("t", replacedText)]).run slowReload).service.store.text "t" =
          .ok replacingText ∧
        ((start {} [("t", replacedText)]).run slowReload).history.getLast? =
          some ⟨12, .obtained "t" (.ok cached.rulebook)⟩ := by
  obtain ⟨old, compiled⟩ := exists_replaced
  obtain ⟨present, now, history⟩ := run_slowReload compiled
  obtain ⟨reads, readAt⟩ := readsAfter_slowReload
  refine ⟨_, present, compiled, reads, ?_, ?_, ?_, ?_⟩
  · have late : ¬ Span.ofSeconds 5 ≤ 0 := by decide
    rw [readAt]
    exact late
  · rw [readAt, now]
    decide
  · decide +kernel
  · rw [history]
    rfl

/-- The entry of the slow reload is dated after the delay, and so served that much longer. -/
theorem slowReload_dated_after_delay :
    ∃ cached before reader delay rest text,
      ((start {} [("t", replacedText)]).run slowReload).service.cache.cached.get? "t" =
          some cached ∧
        (start {} [("t", replacedText)]).DatesFrom slowReload "t" cached before reader delay rest
          text ∧
        (cached.loadedAt ≤ ((start {} [("t", replacedText)]).run before).service.now ↔
          elapsed delay = 0) ∧
        ∀ lifetimesThen now,
          cached.freshness lifetimesThen now ≠ .expired ↔
            0 < lifetimesThen.expiryAge ∧
              now <
                ((start {} [("t", replacedText)]).run before).service.now + elapsed delay +
                  lifetimesThen.expiryAge := by
  obtain ⟨old, compiled⟩ := exists_replaced
  obtain ⟨present, -, -⟩ := run_slowReload compiled
  obtain ⟨before, reader, delay, rest, text, dates, late, window⟩ :=
    entry_dated_after_delay {} [("t", replacedText)] slowReload "t" _ present
  exact ⟨_, before, reader, delay, rest, text, present, dates, late, window⟩

end World

end LendingRules
