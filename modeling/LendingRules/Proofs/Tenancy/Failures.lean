import LendingRules.Proofs.Interleaving.Entries
import LendingRules.Proofs.Interleaving.Invalidation
import LendingRules.Proofs.Tenancy.Confinement

namespace LendingRules

/-!
# What fails leaves everything intact

A refused replacement, an invalid question and a reload that finds no rulebook may
come at any time and after any other failures. None of them changes what is stored
or cached. So an entry goes away only when somebody makes it invalid, it gives way
only to what a reload of its tenant found, and until it expires its tenant is
answered from it, whatever may have become of the store.
-/

/-- Whether an act may make the entry of a tenant invalid. -/
def Act.Forgets (tenant : String) : Act → Prop
  | .errand other .invalidate => other = tenant
  | .errand other (.replaceText _ invalidates) => other = tenant ∧ invalidates = true
  | .dropAll => True
  | _ => False

namespace Service

/-- A service once a reload in the foreground has failed: it counts the get and the read. -/
def countFailure (service : Service) : Service :=
  { service with
    store := { service.store with loads := service.store.loads + 1 }
    cache := service.cache.countMiss }

/-- A reload that fails changes nothing when it is completed. -/
theorem eq_of_complete_error
    {service : Service}
    {reload : Reload}
    {loaded : Except SourceError String}
    {error : LendingError}
    (failed : (service.complete reload loaded).1 = .error error) :
    (service.complete reload loaded).2 = service := by
  obtain ⟨counts, after⟩ := service.service_of_complete reload loaded
  rw [after, failed]

/-- Whoever gets no rulebook leaves all as it is, but for the get and the read being counted. -/
theorem rulebook_of_error
    {service : Service}
    {tenant : String}
    {error : LendingError}
    (failed : (service.rulebook tenant).1 = .error error) :
    service.rulebook tenant = (.error error, none, service.countFailure) := by
  simp only [rulebook, access, lookup, Cache.lookup] at failed ⊢
  rcases service.cache.proceed_cases service.cache.lifetimes service.now
      (service.cache.observe tenant) with
    ⟨existing, -, -, served⟩ | ⟨existing, -, -, -, refreshing⟩ | ⟨-, reloading⟩
  · rw [served] at failed
    cases failed
  · rw [refreshing] at failed
    cases failed
  · rw [reloading] at failed ⊢
    simp only at failed ⊢
    rw [failed, eq_of_complete_error failed]
    rfl

end Service

/-- What is cached for a tenant. -/
def Office.cached? (office : Office) (tenant : String) : Option CachedRulebook :=
  office.service.cache.cached.get? tenant

/--
An act keeps the entry of a tenant, or makes it invalid, or completes a reload of the
tenant, so that the entry gives way to what the reload has found just now.
-/
def Office.KeepsEntry (office : Office) (act : Act) (tenant : String) : Prop :=
  (office.act act).2.cached? tenant = office.cached? tenant ∨
    act.Forgets tenant ∧ (office.act act).2.cached? tenant = none ∨
    ∃ place pending text rulebook,
      act = .errand tenant (.proceed place) ∧
        (office.reloads tenant)[place]? = some pending ∧ pending.loaded? = some (.ok text) ∧
        (office.service.complete pending.reload (.ok text)).1 = .ok rulebook ∧
        (office.act act).2.cached? tenant =
          some
            { rulebook
              loadedAt := office.service.now
              serial := office.service.cache.installs }

/--
What failures do to an office, as far as they concern a tenant: a replacement that is
refused, a question that is invalid, one that gets no rulebook, be it at once or after
it had to wait, and a reload that goes on without success. Then, what any act does to
the entry of the tenant, and that questions are answered as long as it is young.
-/
structure Office.FailsSafely (office : Office) (tenant : String) : Prop where
  replacement :
    ∀ text invalidates error,
      (office.act (.errand tenant (.replaceText text invalidates))).1 =
          .replaced (.error error) →
        (office.act (.errand tenant (.replaceText text invalidates))).2 = office
  invalid :
    ∀ question problems, question.problems? = some problems →
      office.act (.errand tenant (.ask question)) =
        (question.reply (.error (.requestError problems)), office)
  unobtained :
    ∀ question error, question.problems? = none →
      (office.service.rulebook tenant).1 = .error error →
        office.service.respond tenant question =
          (question.reply (.error error), none, office.service.countFailure)
  waiting :
    ∀ question, (office.act (.errand tenant (.ask question))).1 = .underWay →
      (office.act (.errand tenant (.ask question))).2.service =
        office.service.withCache Cache.countMiss
  reload :
    ∀ place,
      (∃ pending text rulebook,
        (office.reloads tenant)[place]? = some pending ∧ pending.loaded? = some (.ok text) ∧
          (office.service.complete pending.reload (.ok text)).1 = .ok rulebook) ∨
        ∃ loads,
          (office.act (.errand tenant (.proceed place))).2.service =
            { office.service with store := { office.service.store with loads } }
  entry : ∀ act, office.KeepsEntry act tenant
  available :
    ∀ cached later question, office.cached? tenant = some cached →
      (∀ act ∈ later, ¬ act.Forgets tenant) →
        cached.age (office.run later).service.now <
            (office.run later).service.cache.lifetimes.expiryAge →
          question.problems? = none →
            ∃ rulebook,
              ((office.run later).act (.errand tenant (.ask question))).1 =
                question.reply (.ok rulebook)

namespace Office

variable {office : Office} {tenant : String}

/-- A replacement that is refused leaves no trace, be it for its text or by the store. -/
theorem replacement_of_error
    {text : String}
    {invalidates : Bool}
    {error : LendingError}
    (failed :
      (office.act (.errand tenant (.replaceText text invalidates))).1 =
        .replaced (.error error)) :
    (office.act (.errand tenant (.replaceText text invalidates))).2 = office := by
  simp only [act, Errand.run, Service.replaceText] at failed ⊢
  cases compiled : Rulebook.ofText text with
  | error error => simp only [Function.update_eq_self]
  | ok rulebook =>
      rw [compiled] at failed
      cases saved : office.service.store.save tenant text with
      | error error => simp only [Function.update_eq_self]
      | ok store =>
          rw [saved] at failed
          cases failed

/-- An invalid question is refused at once, and nothing is looked up or counted. -/
theorem act_of_invalid
    {question : Question}
    {problems : List FormProblem}
    (invalid : question.problems? = some problems) :
    office.act (.errand tenant (.ask question)) =
      (question.reply (.error (.requestError problems)), office) := by
  simp only [act, Errand.run, invalid, Function.update_eq_self]

/-- A question for which there is no rulebook is replied to with the error of the reload. -/
theorem respond_of_unobtained
    {question : Question}
    {error : LendingError}
    (valid : question.problems? = none)
    (failed : (office.service.rulebook tenant).1 = .error error) :
    office.service.respond tenant question =
      (question.reply (.error error), none, office.service.countFailure) := by
  rw [Service.respond_of_valid valid, Service.rulebook_of_error failed]

/--
A reload that goes on installs what it obtained, or changes nothing but the number of
texts that were read.
-/
theorem proceed_cases (office : Office) (tenant : String) (place : Nat) :
    (∃ pending text rulebook counts,
      (office.reloads tenant)[place]? = some pending ∧ pending.loaded? = some (.ok text) ∧
        (office.service.complete pending.reload (.ok text)).1 = .ok rulebook ∧
        (office.act (.errand tenant (.proceed place))).2.service =
          office.service.withCache fun cache =>
            { cache with counts }.install pending.reload rulebook office.service.now) ∨
      ∃ loads,
        (office.act (.errand tenant (.proceed place))).2.service =
          { office.service with store := { office.service.store with loads } } := by
  simp only [act, Errand.run]
  cases waits : (office.reloads tenant)[place]? with
  | none => exact .inr ⟨office.service.store.loads, rfl⟩
  | some pending =>
      cases read : pending.loaded? with
      | none =>
          simp only [read]
          exact .inr ⟨office.service.store.loads + 1, rfl⟩
      | some loaded =>
          simp only [read]
          obtain ⟨counts, after⟩ := office.service.service_of_complete pending.reload loaded
          cases obtained : (office.service.complete pending.reload loaded).1 with
          | error error =>
              rw [obtained] at after
              exact .inr ⟨office.service.store.loads, after⟩
          | ok rulebook =>
              cases loaded with
              | error error => cases obtained
              | ok text =>
                  rw [obtained] at after
                  exact .inl ⟨pending, text, rulebook, counts, rfl, read, obtained, after⟩

end Office

/-- A question that has to wait for a reload counts a miss and changes nothing else. -/
theorem Errand.Ends.service_of_underWay
    {service after : Service}
    {tenant : String}
    {reloads reloadsAfter : List PendingReload}
    {question : Question}
    {reply : Reply}
    (ends : (Errand.ask question).Ends service tenant reloads reply after reloadsAfter)
    (waits : reply = .underWay) :
    after = service.withCache Cache.countMiss := by
  cases ends with
  | refused | served | refreshing => exact absurd waits (question.reply_ne_underWay _)
  | missed => rfl

/-- Whatever else is done for a tenant, its entry stays or is made invalid. -/
theorem Errand.Ends.cached_of_no_reload
    {service after : Service}
    {tenant : String}
    {reloads reloadsAfter : List PendingReload}
    {errand : Errand}
    {reply : Reply}
    (ends : errand.Ends service tenant reloads reply after reloadsAfter)
    (noReload : ∀ place, errand ≠ .proceed place) :
    after.cache.cached.get? tenant = service.cache.cached.get? tenant ∨
      (Act.errand tenant errand).Forgets tenant ∧ after.cache.cached.get? tenant = none := by
  cases ends with
  | absent | loaded | unloaded | failed | revalidated | recompiled =>
      exact absurd rfl (noReload _)
  | @abandoned place reload waits =>
      refine .inl ?_
      cases reload.existing? <;> rfl
  | replaced invalidates =>
      cases invalidates with
      | false => exact .inl rfl
      | true => exact .inr ⟨⟨rfl, rfl⟩, service.cache.get?_cached_invalidate_self tenant⟩
  | invalidated => exact .inr ⟨rfl, service.cache.get?_cached_invalidate_self tenant⟩
  | _ => exact .inl rfl

namespace Office

variable {office : Office} {tenant : String}

/-- Every act keeps the entries of all tenants, but for what is done to them on purpose. -/
theorem keepsEntry (numbered : office.Numbered) (tenant : String) (act : Act) :
    office.KeepsEntry act tenant := by
  unfold KeepsEntry
  cases act with
  | errand other errand =>
      by_cases same : tenant = other
      · subst same
        by_cases noReload : ∀ place, errand ≠ .proceed place
        · rcases (office.ends_act tenant errand).cached_of_no_reload noReload with stays | forgotten
          · exact .inl stays
          · exact .inr (.inl forgotten)
        · simp only [not_forall, not_not] at noReload
          obtain ⟨place, rfl⟩ := noReload
          rcases office.proceed_cases tenant place with
            ⟨pending, text, rulebook, counts, waits, read, obtained, after⟩ | ⟨loads, after⟩
          · have ofTenant : pending.reload.tenant = tenant :=
              numbered.tenants tenant pending (List.mem_of_getElem? waits)
            by_cases current :
                office.service.cache.generation pending.reload.tenant = pending.reload.generation
            · refine .inr (.inr ⟨place, pending, text, rulebook, rfl, waits, read, obtained, ?_⟩)
              rw [cached?, after, Service.install_of_current current, ofTenant,
                TenantMap.get?_insert_self]
            · refine .inl ?_
              rw [cached?, after, Service.install_of_outdated current]
              rfl
          · refine .inl ?_
            rw [cached?, after]
            rfl
      · exact .inl ((numbered.confined other errand).cached tenant same)
  | dropAll => exact .inr (.inl ⟨trivial, TenantMap.get?_empty tenant⟩)
  | setLifetimes | advance | setOutage => exact .inl rfl

/-- Time does not run backwards. -/
theorem now_le_act (numbered : office.Numbered) (act : Act) :
    office.service.now ≤ (office.act act).2.service.now := by
  cases act with
  | errand tenant errand => exact Nat.le_of_eq (numbered.confined tenant errand).now.symm
  | advance span => exact Nat.le_add_right ..
  | setLifetimes | dropAll | setOutage => exact Nat.le_refl _

/-- No entry of a tenant is from the future. -/
def Dated (office : Office) (tenant : String) : Prop :=
  ∀ cached, office.cached? tenant = some cached → cached.loadedAt ≤ office.service.now

theorem Dated.act (dated : office.Dated tenant) (numbered : office.Numbered) (act : Act) :
    (office.act act).2.Dated tenant := by
  intro cached present
  refine Nat.le_trans ?_ (now_le_act numbered act)
  rcases keepsEntry numbered tenant act with
    stays | ⟨-, forgotten⟩ | ⟨place, pending, text, rulebook, -, -, -, -, installed⟩
  · exact dated cached (stays.symm.trans present)
  · exact absurd (present.symm.trans forgotten) (by simp)
  · cases present.symm.trans installed
    exact Nat.le_refl _

/-- Unless it is made invalid, an entry lasts or gives way to one that was loaded later. -/
theorem entry_lasts
    {cached : CachedRulebook}
    {later : List Act}
    (numbered : office.Numbered)
    (dated : office.Dated tenant)
    (present : office.cached? tenant = some cached)
    (kept : ∀ act ∈ later, ¬ act.Forgets tenant) :
    ∃ lasting,
      (office.run later).cached? tenant = some lasting ∧
        cached.loadedAt ≤ lasting.loadedAt := by
  induction later generalizing office cached with
  | nil => exact ⟨cached, present, Nat.le_refl _⟩
  | cons act rest inductionHypothesis =>
      have keptNow := kept act List.mem_cons_self
      have keptLater : ∀ act ∈ rest, ¬ act.Forgets tenant :=
        fun act member => kept act (List.mem_cons_of_mem _ member)
      have goesOn {next : CachedRulebook}
          (presentNext : (office.act act).2.cached? tenant = some next) :
          ∃ lasting,
            (office.run (act :: rest)).cached? tenant = some lasting ∧
              next.loadedAt ≤ lasting.loadedAt :=
        inductionHypothesis (numbered.act act) (dated.act numbered act) presentNext keptLater
      rcases keepsEntry numbered tenant act with
        stays | ⟨forgets, -⟩ | ⟨place, pending, text, rulebook, -, -, -, -, installed⟩
      · exact goesOn (stays.trans present)
      · exact absurd forgets keptNow
      · obtain ⟨lasting, found, later⟩ := goesOn installed
        exact ⟨lasting, found, Nat.le_trans (dated cached present) later⟩

/-- Whoever asks about an entry that has not expired is answered from it. -/
theorem reply_of_young
    {cached : CachedRulebook}
    {question : Question}
    (present : office.cached? tenant = some cached)
    (young : cached.age office.service.now < office.service.cache.lifetimes.expiryAge)
    (valid : question.problems? = none) :
    (office.act (.errand tenant (.ask question))).1 = question.reply (.ok cached.rulebook) := by
  simp only [act, Errand.run, valid, Service.lookup, Cache.lookup]
  rcases office.service.cache.proceed_cases office.service.cache.lifetimes office.service.now
      (office.service.cache.observe tenant) with
    ⟨existing, found, -, served⟩ | ⟨existing, found, -, -, refreshing⟩ | ⟨expired, -⟩
  · cases present.symm.trans found
    rw [served]
  · cases present.symm.trans found
    rw [refreshing]
  · exact absurd (expired cached present) ((cached.unexpired_iff _ _).mpr young)

/-- Failures leave an office intact that has its serials in order and no entry from the future. -/
theorem failsSafely (numbered : office.Numbered) (dated : office.Dated tenant) :
    office.FailsSafely tenant where
  replacement := fun _ _ _ => replacement_of_error
  invalid := fun _ _ => act_of_invalid
  unobtained := fun _ _ => respond_of_unobtained
  waiting := fun question => (office.ends_act tenant (.ask question)).service_of_underWay
  reload := by
    intro place
    rcases office.proceed_cases tenant place with
      ⟨pending, text, rulebook, counts, waits, read, obtained, -⟩ | unchanged
    · exact .inl ⟨pending, text, rulebook, waits, read, obtained⟩
    · exact .inr unchanged
  entry := keepsEntry numbered tenant
  available := by
    intro cached later question present kept young valid
    obtain ⟨lasting, found, loadedLater⟩ := entry_lasts numbered dated present kept
    have lastingYoung :
        lasting.age (office.run later).service.now <
          (office.run later).service.cache.lifetimes.expiryAge := by
      have younger : lasting.age (office.run later).service.now ≤
          cached.age (office.run later).service.now := Nat.sub_le_sub_left loadedLater _
      exact Nat.lt_of_le_of_lt younger young
    exact ⟨lasting.rulebook, reply_of_young found lastingYoung valid⟩

end Office

namespace Office

theorem dated_start (lifetimes : Lifetimes) (texts : List (String × String)) (tenant : String) :
    (start lifetimes texts).Dated tenant := by
  intro cached present
  cases present

theorem failsSafely_run
    {office : Office}
    {tenant : String}
    (numbered : office.Numbered)
    (dated : office.Dated tenant)
    (acts : List Act) :
    (office.run acts).FailsSafely tenant := by
  induction acts generalizing office with
  | nil => exact failsSafely numbered dated
  | cons act rest inductionHypothesis =>
      exact inductionHypothesis (numbered.act act) (dated.act numbered act)

/--
Failures leave everything intact, whenever they come: a refused replacement and an
invalid question change nothing at all, a get that fails is counted and changes
nothing else, and no reload that fails touches an entry. An entry is removed only by
an invalidation of its tenant or a drop, and replaced only by what a reload of its
tenant found, also while other operations are half done. Until it expires its tenant
is answered, whatever becomes of the store.
-/
theorem failures_leave_everything_intact
    (lifetimes : Lifetimes)
    (texts : List (String × String))
    (tenant : String) :
    (∀ acts, ((start lifetimes texts).run acts).FailsSafely tenant) ∧
      (∀ moves move, ((World.start lifetimes texts).run moves).KeepsEntry move tenant) ∧
      ∀ service now lifetimes observed existing,
        observed.existing? = some existing →
          existing.age now < lifetimes.expiryAge →
            ((Task.deciding now lifetimes observed).advance service).next? =
              some (.answering observed.tenant (.ok existing.rulebook)) :=
  ⟨failsSafely_run (numbered_start lifetimes texts) (dated_start lifetimes texts tenant),
    fun moves move => ((World.start lifetimes texts).run moves).keepsEntry move tenant,
    fun service _ _ _ _ found young => Task.next?_of_young found young service⟩

/-- A rulebook is loaded for the first question. -/
def firstAnswer : List Act :=
  [.errand "t" (.ask .rulebook), .errand "t" (.proceed 0), .errand "t" (.proceed 0)]

/--
When the entry has grown stale, a question starts a refresh, which finds a text that
does not compile. Then the store cannot be reached any more.
-/
def failingRefresh : List Act :=
  [.advance (.ofSeconds 4), .errand "t" (.ask .rulebook), .errand "t" (.save "priority"),
    .errand "t" (.proceed 0), .errand "t" (.proceed 0), .setOutage (some "moving")]

/-- An office that has a rulebook cached, and has seen nothing but failures since. -/
def failedOffice : Office :=
  (start {} [("t", World.replacedText)]).run (firstAnswer ++ failingRefresh)

/-- After the failures questions are answered, and a replacement is refused without a trace. -/
theorem failingRefresh_keeps_answering :
    ∃ cached rulebook,
      ((start {} [("t", World.replacedText)]).run firstAnswer).cached? "t" = some cached ∧
        (∀ act ∈ failingRefresh, ¬ act.Forgets "t") ∧
        cached.age failedOffice.service.now <
          failedOffice.service.cache.lifetimes.expiryAge ∧
        (failedOffice.act (.errand "t" (.ask .rulebook))).1 = .rulebook (.ok rulebook) ∧
        (failedOffice.act (.errand "t" (.replaceText World.replacingText true))) =
          (.replaced (.error (.sourceError (.unavailable "moving"))), failedOffice) := by
  obtain ⟨safely, -, -⟩ := failures_leave_everything_intact {} [("t", World.replacedText)] "t"
  have present :
      (((start {} [("t", World.replacedText)]).run firstAnswer).cached? "t").isSome = true := by
    decide +kernel
  obtain ⟨cached, found⟩ := Option.isSome_iff_exists.mp present
  have kept : ∀ act ∈ failingRefresh, ¬ act.Forgets "t" := by
    simp [failingRefresh, Act.Forgets]
  have allYoung :
      (((start {} [("t", World.replacedText)]).run firstAnswer).cached? "t").all
          (fun cached =>
            cached.age failedOffice.service.now <
              failedOffice.service.cache.lifetimes.expiryAge) = true := by
    decide +kernel
  have young :
      cached.age failedOffice.service.now <
        failedOffice.service.cache.lifetimes.expiryAge := by
    rw [found] at allYoung
    exact of_decide_eq_true allYoung
  obtain ⟨rulebook, answered⟩ :=
    (safely firstAnswer).available cached failingRefresh .rulebook found kept young rfl
  have refused :
      (failedOffice.act (.errand "t" (.replaceText World.replacingText true))).1 =
        .replaced (.error (.sourceError (.unavailable "moving"))) := by
    decide +kernel
  have untouched := (safely (firstAnswer ++ failingRefresh)).replacement _ _ _ refused
  exact ⟨cached, rulebook, found, kept, young, answered, Prod.ext refused untouched⟩

end Office

end LendingRules
