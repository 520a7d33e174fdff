import LendingRules.Proofs.Interleaving.Invalidation

namespace LendingRules

/-!
# The cache is transparent

Whatever is cached for a tenant or answered to a get is the rulebook of a text of
that tenant that was read before. A reload may keep the rulebook that it has
looked up, on no other ground than that the digests agree. So the texts that were
read have to be told apart by their digests; then the rulebook that a reload goes
on with is that of the very text it has read.
-/

/-- Whether digests tell the texts apart that were read in a stretch of history. -/
def DigestsTellApart (stretch : List Occurrence) : Prop :=
  ∀ firstReader firstTenant first secondReader secondTenant second,
    ⟨firstReader, .loaded firstTenant (.ok first)⟩ ∈ stretch →
      ⟨secondReader, .loaded secondTenant (.ok second)⟩ ∈ stretch →
        Digest.ofText first = Digest.ofText second → first = second

theorem DigestsTellApart.mono
    {stretch longer : List Occurrence}
    (included : stretch ⊆ longer)
    (apart : DigestsTellApart longer) :
    DigestsTellApart stretch := by
  intro firstReader firstTenant first secondReader secondTenant second firstRead secondRead
  exact apart _ _ _ _ _ _ (included firstRead) (included secondRead)

/-- A rulebook that was read is that of any text read with its digest. -/
theorem Rulebook.ReadIn.ofText_eq
    {tenant other text : String}
    {reader : Nat}
    {stretch : List Occurrence}
    {rulebook : Rulebook}
    (readIn : rulebook.ReadIn tenant stretch)
    (apart : DigestsTellApart stretch)
    (read : ⟨reader, .loaded other (.ok text)⟩ ∈ stretch)
    (same : rulebook.digest = Digest.ofText text) :
    Rulebook.ofText text = .ok rulebook := by
  obtain ⟨originalReader, original, originalRead, compiled⟩ := readIn
  rw [Rulebook.digest_of_ofText compiled] at same
  rw [← apart _ _ _ _ _ _ originalRead read same]
  exact compiled

/-- The one text that a task has read so far. -/
structure HasRead
    (number : Nat)
    (tenant text : String)
    (stretch : List Occurrence) : Prop where
  read : ⟨number, .loaded tenant (.ok text)⟩ ∈ stretch
  only : ∀ other loaded, ⟨number, .loaded other loaded⟩ ∈ stretch → loaded = .ok text

namespace Task

/--
What a task goes on with is the rulebook of the text it has read itself. A task
that has not come so far has read nothing yet.
-/
def GoesByOwnText (number : Nat) (stretch : List Occurrence) : Task → Prop
  | resolving _ reload text => HasRead number reload.tenant text stretch
  | stamping _ reload rulebook | installing _ reload rulebook _ =>
      ∃ text, HasRead number reload.tenant text stretch ∧
        Rulebook.ofText text = .ok rulebook
  | answering _ result =>
      ∀ rulebook, result = .ok rulebook →
        ∀ other text, ⟨number, .loaded other (.ok text)⟩ ∈ stretch →
          Rulebook.ofText text = .ok rulebook
  | replacing _ _ _ => True
  | starting _ | timed _ _ | configured _ _ _ | deciding _ _ _ | loading _ _ =>
      ∀ other loaded, ⟨number, .loaded other loaded⟩ ∉ stretch

/-- Only what the task itself has read matters. -/
theorem GoesByOwnText.of_mem_iff
    {number : Nat}
    {stretch longer : List Occurrence}
    {task : Task}
    (same : ∀ other loaded,
      (⟨number, .loaded other loaded⟩ : Occurrence) ∈ longer ↔
        ⟨number, .loaded other loaded⟩ ∈ stretch)
    (goesBy : task.GoesByOwnText number stretch) :
    task.GoesByOwnText number longer := by
  have hasRead {tenant text : String} (has : HasRead number tenant text stretch) :
      HasRead number tenant text longer :=
    ⟨(same _ _).mpr has.read, fun other loaded read => has.only other loaded ((same _ _).mp read)⟩
  cases task with
  | resolving => exact hasRead goesBy
  | stamping | installing =>
      obtain ⟨text, has, compiled⟩ := goesBy
      exact ⟨text, hasRead has, compiled⟩
  | answering tenant result =>
      intro rulebook obtained other text read
      exact goesBy rulebook obtained other text ((same _ _).mp read)
  | replacing => trivial
  | starting | timed | configured | deciding | loading =>
      exact fun other loaded read => goesBy other loaded ((same _ _).mp read)

namespace Leads

variable {service : Service} {task : Task} {effect : Effect}

/-- The tenant of a task is that of the task it goes on from. -/
theorem tenant?_of_next
    {next : Task}
    {tenant : String}
    (leads : task.Leads service effect)
    (goesOn : effect.next? = some next)
    (serves : next.tenant? = some tenant) :
    task.tenant? = some tenant := by
  cases leads with
  | unloaded role | fail role | install role =>
      cases role <;> cases goesOn
      exact serves
  | replacementSaved =>
      cases goesOn
      cases serves
  | _ => first | (cases goesOn; done) | (cases goesOn; exact serves)

/--
A task that goes by the text it has read goes on to do so. When it keeps the
rulebook it has looked up, that one was read and has the digest of the text.
-/
theorem goesByOwnText_next
    {next : Task}
    {number : Nat}
    {stretch : List Occurrence}
    (leads : task.Leads service effect)
    (goesOn : effect.next? = some next)
    (apart : DigestsTellApart stretch)
    (readIn : ∀ tenant, task.tenant? = some tenant → task.ReadIn tenant stretch)
    (goesBy : task.GoesByOwnText number stretch) :
    next.GoesByOwnText number
      (stretch ++ effect.event?.toList.map (⟨number, ·⟩)) := by
  cases leads with
  | get | configure | miss | stamp =>
      cases goesOn
      simpa [GoesByOwnText] using goesBy
  | observe other now lifetimes =>
      cases goesOn
      simpa [GoesByOwnText] using goesBy
  | serve | refresh =>
      cases goesOn
      intro rulebook obtained other text read
      exact absurd (by simpa using read) (goesBy other (.ok text))
  | @loaded reload text role success =>
      cases goesOn
      have read : (⟨number, .loaded reload.tenant (.ok text)⟩ : Occurrence) ∈
          stretch ++ [⟨number, .loaded reload.tenant (.ok text)⟩] :=
        List.mem_append_right stretch (List.mem_singleton.mpr rfl)
      refine ⟨read, fun other loaded otherRead => ?_⟩
      rcases List.mem_append.mp otherRead with before | now
      · exact absurd before (goesBy other loaded)
      · cases List.mem_singleton.mp now
        rfl
  | unloaded role =>
      cases role <;> cases goesOn
      exact fun rulebook obtained => nomatch obtained
  | @revalidate reload text existing role found same =>
      cases goesOn
      have existingRead := (readIn reload.tenant rfl).1 existing found
      have compiled := existingRead.ofText_eq apart goesBy.read same
      simpa [GoesByOwnText] using ⟨text, goesBy, compiled⟩
  | @recompile text rulebook role reload compiled =>
      cases goesOn
      simpa [GoesByOwnText] using ⟨text, goesBy, compiled⟩
  | fail role =>
      cases role <;> cases goesOn
      exact fun rulebook obtained => nomatch obtained
  | install role reload rulebook now =>
      cases role <;> cases goesOn
      obtain ⟨text, has, compiled⟩ := goesBy
      intro obtained same other read readBefore
      cases same
      cases has.only other (.ok read) (by simpa using readBefore)
      exact compiled
  | replacementSaved =>
      cases goesOn
      trivial
  | _ => cases goesOn

end Leads

end Task

namespace World

/--
Whatever is cached or held by a task was read as a text of the tenant concerned,
and tasks go by the texts they have read themselves.
-/
structure Transparent (world : World) : Prop where
  cached :
    ∀ tenant cached,
      world.service.cache.cached.get? tenant = some cached →
        cached.rulebook.ReadIn tenant world.history
  tasks :
    ∀ number task tenant,
      world.tasks number = some task →
        task.tenant? = some tenant → task.ReadIn tenant world.history
  goBy :
    ∀ number task,
      world.tasks number = some task → task.GoesByOwnText number world.history

namespace Transparent

variable {world next : World}

theorem start (lifetimes : Lifetimes) (texts : List (String × String)) :
    (World.start lifetimes texts).Transparent where
  cached := by
    intro tenant cached present
    cases present
  tasks := by
    intro number task tenant underWay
    cases underWay
  goBy := by
    intro number task underWay
    cases underWay

/-- Under the next number nothing has been read yet. -/
theorem not_loaded_of_numbered
    (numbered : world.Numbered)
    (tenant : String)
    (loaded : Except SourceError String) :
    ⟨world.nextTask, .loaded tenant loaded⟩ ∉ world.history :=
  fun read => Nat.lt_irrefl _ (numbered.history _ read)

/-- A step of a task keeps what it and all other tasks hold to texts that were read. -/
theorem settle
    {number : Nat}
    {task : Task}
    {effect : Effect}
    (transparent : world.Transparent)
    (numbered : world.Numbered)
    (apart : DigestsTellApart world.history)
    (underWay : world.tasks number = some task)
    (leads : task.Leads world.service effect) :
    (world.settle number effect).Transparent := by
  have included := List.subset_append_left world.history
    (effect.event?.toList.map (⟨number, ·⟩ : Event → Occurrence))
  have readIn (tenant : String) (serves : task.tenant? = some tenant) :
      task.ReadIn tenant world.history :=
    transparent.tasks number task tenant underWay serves
  -- What is added to the history bears the number of the task that takes the step.
  have loaded_iff {query : Nat} (different : query ≠ number) (other : String)
      (loaded : Except SourceError String) :
      (⟨query, .loaded other loaded⟩ : Occurrence) ∈
          world.history ++ effect.event?.toList.map (⟨number, ·⟩) ↔
        ⟨query, .loaded other loaded⟩ ∈ world.history := by
    simp [different.symm]
  constructor
  case cached =>
    intro tenant cached present
    rcases leads.cached_after present with before | ⟨role, reload, now, rfl, ofTenant, -⟩
    · exact (transparent.cached tenant cached before).mono included
    · have held := readIn tenant (congrArg some ofTenant)
      exact Rulebook.ReadIn.mono included held
  case tasks =>
    intro query other tenant otherUnderWay serves
    rcases task_of_settle otherUnderWay with
      ⟨-, refresh, refreshed, rfl⟩ | ⟨-, goesOn⟩ | ⟨-, before⟩
    · have took := leads.reload?_of_refresh refreshed
      have ofTask := (Task.tenant?_of_reload? took).trans serves
      exact (leads.readIn_refresh refreshed (readIn tenant ofTask)).mono included
    · have ofTask := leads.tenant?_of_next goesOn serves
      exact leads.readIn_next goesOn ofTask (readIn tenant ofTask) (transparent.cached tenant)
    · exact (transparent.tasks query other tenant before serves).mono included
  case goBy =>
    intro query other otherUnderWay
    rcases task_of_settle otherUnderWay with
      ⟨rfl, refresh, refreshed, rfl⟩ | ⟨rfl, goesOn⟩ | ⟨different, before⟩
    · have apartFrom : world.nextTask ≠ number :=
        (Nat.ne_of_lt (numbered.tasks number task underWay)).symm
      exact fun tenant loaded read =>
        not_loaded_of_numbered numbered tenant loaded ((loaded_iff apartFrom _ _).mp read)
    · exact leads.goesByOwnText_next goesOn apart readIn (transparent.goBy query task underWay)
    · exact (transparent.goBy query other before).of_mem_iff (loaded_iff different)

/-- Every way to go on keeps the cache transparent. -/
theorem of_leads
    (leads : world.Leads next)
    (numbered : world.Numbered)
    (apart : DigestsTellApart world.history)
    (transparent : world.Transparent) :
    next.Transparent := by
  cases leads with
  | performed underWay leads => exact transparent.settle numbered apart underWay leads
  | idle => exact transparent
  | started operation =>
      refine ⟨transparent.cached, ?_, ?_⟩
      · intro query task tenant underWay serves
        rcases task_of_startTask underWay with ⟨-, rfl⟩ | before
        · trivial
        · exact transparent.tasks query task tenant before serves
      · intro query task underWay
        rcases task_of_startTask underWay with ⟨rfl, rfl⟩ | before
        · exact not_loaded_of_numbered numbered
        · exact transparent.goBy query task before
  | @abandoned number reload underWay =>
      refine ⟨?_, ?_, ?_⟩
      · intro tenant cached present
        refine transparent.cached tenant cached ?_
        rw [← present]
        unfold giveUp
        cases reload.existing? <;> rfl
      · intro query task tenant underWay
        exact transparent.tasks query task tenant (task_of_giveUp underWay)
      · exact fun query task underWay => transparent.goBy query task (task_of_giveUp underWay)
  | advanced | outage =>
      exact ⟨transparent.cached, transparent.tasks, transparent.goBy⟩

end Transparent

/-- In every run in which digests tell the texts apart the cache is transparent. -/
theorem transparent_run
    {lifetimes : Lifetimes}
    {texts : List (String × String)}
    {moves : List Move}
    (apart : DigestsTellApart ((start lifetimes texts).run moves).history) :
    ((start lifetimes texts).run moves).Transparent := by
  have preserved :
      ∀ before after : World,
        before.Leads after →
          before.Numbered ∧ (DigestsTellApart before.history → before.Transparent) →
            after.Numbered ∧ (DigestsTellApart after.history → after.Transparent) := by
    rintro before after leads ⟨numbered, transparent⟩
    refine ⟨numbered.of_leads leads, fun afterApart => ?_⟩
    obtain ⟨happened?, grown⟩ := leads.history
    have beforeApart : DigestsTellApart before.history := by
      refine afterApart.mono ?_
      rw [grown]
      exact List.subset_append_left _ _
    exact (transparent beforeApart).of_leads leads numbered beforeApart
  have initially :
      (start lifetimes texts).Numbered ∧
        (DigestsTellApart (start lifetimes texts).history →
          (start lifetimes texts).Transparent) :=
    ⟨numbered_start lifetimes texts, fun _ => .start lifetimes texts⟩
  exact (run_induction preserved initially moves).2 apart

/-- An entry that a move brings into the cache is installed by a task. -/
theorem installing_of_step
    {world : World}
    {move : Move}
    {tenant : String}
    {cached : CachedRulebook}
    (present : (world.step move).service.cache.cached.get? tenant = some cached)
    (absent : world.service.cache.cached.get? tenant ≠ some cached) :
    ∃ number role reload now, move = .perform number ∧ reload.tenant = tenant ∧
      world.tasks number = some (.installing role reload cached.rulebook now) := by
  cases move with
  | perform number =>
      simp only [step, performTask] at present
      split at present
      · exact absurd present absent
      · rename_i task underWay
        rcases (task.leads_advance world.service).cached_after present with
          before | ⟨role, reload, now, rfl, ofTenant, -⟩
        · exact absurd before absent
        · exact ⟨number, role, reload, now, rfl, ofTenant, underWay⟩
  | abandon number =>
      refine absurd ?_ absent
      rw [← present, step, abandonTask]
      split
      · rename_i reload underWay
        unfold giveUp
        cases reload.existing? <;> rfl
      · rfl
  | start | advance | setOutage => exact absurd present absent

/--
The cache is transparent: however operations interleave, every rulebook that is
cached for a tenant or answered to a get is that of a text of the tenant that was
read before, and bears the digest of that text. Whoever has read a text on the way
to a rulebook answers with, and brings into the cache, no other than that of this
text, whether it was compiled anew or kept.
-/
theorem cache_is_transparent
    (lifetimes : Lifetimes)
    (texts : List (String × String))
    (moves : List Move)
    (tenant : String)
    (apart : DigestsTellApart ((start lifetimes texts).run moves).history) :
    (∀ cached,
      ((start lifetimes texts).run moves).service.cache.cached.get? tenant = some cached →
        ∃ reader text,
          ⟨reader, .loaded tenant (.ok text)⟩ ∈ ((start lifetimes texts).run moves).history ∧
            Rulebook.ofText text = .ok cached.rulebook ∧
              cached.rulebook.digest = Digest.ofText text) ∧
      (∀ earlier later get rulebook,
        ((start lifetimes texts).run moves).history =
            earlier ++ ⟨get, .obtained tenant (.ok rulebook)⟩ :: later →
          (∃ reader text,
            ⟨reader, .loaded tenant (.ok text)⟩ ∈ earlier ∧
              Rulebook.ofText text = .ok rulebook ∧
                rulebook.digest = Digest.ofText text) ∧
            ∀ own, ⟨get, .loaded tenant (.ok own)⟩ ∈ earlier →
              Rulebook.ofText own = .ok rulebook) ∧
        ∀ first move rest cached,
          moves = first ++ move :: rest →
            (((start lifetimes texts).run first).step move).service.cache.cached.get? tenant =
                some cached →
              ((start lifetimes texts).run first).service.cache.cached.get? tenant ≠
                  some cached →
                ∃ installer own,
                  move = .perform installer ∧
                    HasRead installer tenant own ((start lifetimes texts).run first).history ∧
                      Rulebook.ofText own = .ok cached.rulebook := by
  have prefixApart {first rest : List Move} (shape : moves = first ++ rest) :
      DigestsTellApart ((start lifetimes texts).run first).history := by
    refine apart.mono ?_
    obtain ⟨added, grown⟩ := ((start lifetimes texts).run first).history_run rest
    rw [shape, run_append, grown]
    exact List.subset_append_left _ _
  refine ⟨?_, ?_, ?_⟩
  · intro cached present
    obtain ⟨reader, text, read, compiled⟩ := (transparent_run apart).cached tenant cached present
    exact ⟨reader, text, read, compiled, Rulebook.digest_of_ofText compiled⟩
  · intro earlier later get rulebook shape
    obtain ⟨first, move, rest, split, before, answered⟩ := exists_move_of_history shape
    have transparent := transparent_run (prefixApart split)
    have told : ((start lifetimes texts).run first).history = earlier := before
    obtain ⟨task, effect, underWay, leads, happened, -⟩ :=
      (leads_step _ move).of_history (told ▸ answered)
    obtain rfl := leads.of_obtained happened
    obtain ⟨reader, text, read, compiled⟩ :=
      transparent.tasks get _ tenant underWay rfl rulebook rfl
    have goesBy := transparent.goBy get _ underWay
    rw [told] at read goesBy
    refine ⟨⟨reader, text, read, compiled, Rulebook.digest_of_ofText compiled⟩, ?_⟩
    exact fun own ownRead => goesBy rulebook rfl tenant own ownRead
  · intro first move rest cached split present absent
    obtain ⟨installer, role, reload, now, rfl, rfl, underWay⟩ := installing_of_step present absent
    have transparent := transparent_run (prefixApart split)
    obtain ⟨own, has, compiled⟩ := transparent.goBy installer _ underWay
    exact ⟨installer, own, rfl, has, compiled⟩

/--
A rulebook is loaded, grows stale and is served while its refresh starts. The text
is written anew before the refresh reads it, and then somebody gets the rulebook.
-/
def overtakenRefresh : List Move :=
  .start (.get "t") :: List.replicate 9 (.perform 0) ++
    .advance (.ofSeconds 4) :: .start (.get "t") :: List.replicate 5 (.perform 10) ++
      .start (.save "t" replacingText) :: .perform 16 :: List.replicate 4 (.perform 14) ++
        .start (.get "t") :: List.replicate 5 (.perform 22)

theorem history_overtakenRefresh
    {old new : Rulebook}
    (oldCompiled : Rulebook.ofText replacedText = .ok old)
    (newCompiled : Rulebook.ofText replacingText = .ok new)
    (apart : Digest.ofText replacedText ≠ Digest.ofText replacingText) :
    ((start {} [("t", replacedText)]).run overtakenRefresh).history =
      [⟨0, .observed "t"⟩, ⟨0, .loaded "t" (.ok replacedText)⟩,
        ⟨0, .obtained "t" (.ok old)⟩, ⟨10, .observed "t"⟩, ⟨10, .obtained "t" (.ok old)⟩,
        ⟨16, .wrote "t" replacingText⟩, ⟨14, .loaded "t" (.ok replacingText)⟩,
        ⟨22, .observed "t"⟩] ++ ⟨22, .obtained "t" (.ok new)⟩ :: [] := by
  have oldDigest := Rulebook.digest_of_ofText oldCompiled
  generalize replacedText = oldText at *
  simp [overtakenRefresh, run, step, start, startTask, performTask, settle, updateTask,
    Operation.begin, Task.advance, ReloadRole.conclude?, Service.start, Service.load,
    Service.saveText, Service.withCache, Service.advance, TextStore.ofPairs, TextStore.load,
    TextStore.text, TextStore.save, TenantMap.ofPairs, TenantMap.get?, TenantMap.insert,
    TenantMap.erase, TenantMap.empty, Cache.empty, Cache.observe, Cache.proceed,
    Cache.countMiss, Cache.countHit, Cache.claimRefresh, Cache.resolve, Cache.install,
    Cache.generation, CachedRulebook.freshness, CachedRulebook.age, Lifetimes.expiryAge,
    Lifetimes.refreshAge, Span.ofMillis, Span.ofSeconds, oldCompiled, newCompiled,
    Option.filter_some, oldDigest, apart]

/-- The refresh did not keep the old rulebook, and the last get is given the new one. -/
theorem overtakenRefresh_obtains_new :
    ∃ old new : Rulebook,
      Rulebook.ofText replacedText = .ok old ∧
        ((start {} [("t", replacedText)]).run overtakenRefresh).history =
            [⟨0, .observed "t"⟩, ⟨0, .loaded "t" (.ok replacedText)⟩,
              ⟨0, .obtained "t" (.ok old)⟩, ⟨10, .observed "t"⟩,
              ⟨10, .obtained "t" (.ok old)⟩, ⟨16, .wrote "t" replacingText⟩,
              ⟨14, .loaded "t" (.ok replacingText)⟩, ⟨22, .observed "t"⟩,
              ⟨22, .obtained "t" (.ok new)⟩] ∧
          DigestsTellApart ((start {} [("t", replacedText)]).run overtakenRefresh).history ∧
            ∃ reader text,
              (⟨reader, .loaded "t" (.ok text)⟩ : Occurrence) ∈
                  [⟨0, .observed "t"⟩, ⟨0, .loaded "t" (.ok replacedText)⟩,
                    ⟨0, .obtained "t" (.ok old)⟩, ⟨10, .observed "t"⟩,
                    ⟨10, .obtained "t" (.ok old)⟩, ⟨16, .wrote "t" replacingText⟩,
                    ⟨14, .loaded "t" (.ok replacingText)⟩, ⟨22, .observed "t"⟩] ∧
                Rulebook.ofText text = .ok new ∧ new.digest = Digest.ofText text := by
  obtain ⟨old, oldCompiled⟩ :=
    Rulebook.exists_of_accepted (by decide +kernel : (Rulebook.ofText replacedText).isOk = true)
  obtain ⟨new, newCompiled⟩ :=
    Rulebook.exists_of_accepted (by decide +kernel : (Rulebook.ofText replacingText).isOk = true)
  have ran := history_overtakenRefresh oldCompiled newCompiled digest_replacedText_ne
  have apart :
      DigestsTellApart ((start {} [("t", replacedText)]).run overtakenRefresh).history := by
    have read {reader : Nat} {tenant text : String}
        (member :
          ⟨reader, .loaded tenant (.ok text)⟩ ∈
            ((start {} [("t", replacedText)]).run overtakenRefresh).history) :
        text = replacedText ∨ text = replacingText := by
      rw [ran] at member
      simp only [List.cons_append, List.nil_append, List.mem_cons,
        Occurrence.mk.injEq, reduceCtorEq, and_false, Event.loaded.injEq,
        Except.ok.injEq, List.not_mem_nil, or_self, or_false, false_or] at member
      exact member.imp (fun old => old.2.2) (fun new => new.2.2)
    intro _ _ first _ _ second firstRead secondRead
    exact eq_of_digest_eq (read firstRead) (read secondRead)
  obtain ⟨-, answers, -⟩ :=
    cache_is_transparent {} [("t", replacedText)] overtakenRefresh "t" apart
  exact ⟨old, new, oldCompiled, ran, apart, (answers _ _ _ _ ran).1⟩

end World

end LendingRules
