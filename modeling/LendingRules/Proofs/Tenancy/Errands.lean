import LendingRules.Proofs.Interleaving.Transition
import LendingRules.Proofs.Tenancy.Office

namespace LendingRules

/-!
# What an errand can do

The ways in which an errand may end are listed once, with the reply to it, the
service it leaves behind and the reloads then under way for its tenant. Whatever
holds of every errand is shown by going through the list.
-/

/-- A reload is completed in one of four ways, and only a success changes the service. -/
theorem Service.complete_cases
    (service : Service)
    (reload : Reload)
    (loaded : Except SourceError String) :
    (∃ error,
        loaded = .error error ∧
          service.complete reload loaded = (.error (.sourceError error), service)) ∨
      (∃ text error,
        loaded = .ok text ∧
          Rulebook.ofText text = .error error ∧
            service.complete reload loaded = (.error error, service)) ∨
      (∃ text existing,
        loaded = .ok text ∧
          reload.existing? = some existing ∧
            existing.rulebook.digest = Digest.ofText text ∧
              service.complete reload loaded =
                (.ok existing.rulebook, service.withCache fun cache =>
                  { cache with counts.revalidations := cache.counts.revalidations + 1 }.install
                    reload existing.rulebook service.now)) ∨
      ∃ text rulebook,
        loaded = .ok text ∧
          Rulebook.ofText text = .ok rulebook ∧
            service.complete reload loaded =
              (.ok rulebook, service.withCache fun cache =>
                { cache with counts.recompiles := cache.counts.recompiles + 1 }.install
                  reload rulebook service.now) := by
  cases loaded with
  | error error => exact .inl ⟨error, rfl, rfl⟩
  | ok text =>
      refine .inr ?_
      simp only [complete, Cache.complete]
      rcases service.cache.resolve_cases reload text with
        ⟨existing, found, same, kept⟩ | ⟨rulebook, compiled, made⟩ | ⟨error, failure, failed⟩
      · rw [kept]
        exact .inr (.inl ⟨text, existing, rfl, found, same, rfl⟩)
      · rw [made]
        exact .inr (.inr ⟨text, rulebook, rfl, compiled, rfl⟩)
      · rw [failed]
        exact .inl ⟨text, error, rfl, failure, rfl⟩

/-- A reload that is completed installs what it obtained, and leaves all as it is if it failed. -/
theorem Service.service_of_complete
    (service : Service)
    (reload : Reload)
    (loaded : Except SourceError String) :
    ∃ counts,
      (service.complete reload loaded).2 =
        match (service.complete reload loaded).1 with
        | .error _ => service
        | .ok rulebook =>
            service.withCache fun cache =>
              { cache with counts }.install reload rulebook service.now := by
  rcases service.complete_cases reload loaded with
    ⟨error, -, unloaded⟩ | ⟨text, error, -, -, failed⟩ | ⟨text, existing, -, -, -, kept⟩ |
      ⟨text, rulebook, -, -, made⟩
  · rw [unloaded]
    exact ⟨service.cache.counts, rfl⟩
  · rw [failed]
    exact ⟨service.cache.counts, rfl⟩
  · rw [kept]
    exact ⟨_, rfl⟩
  · rw [made]
    exact ⟨_, rfl⟩

/-- The ways in which an errand for a tenant may end. -/
inductive Errand.Ends
    (service : Service)
    (tenant : String)
    (reloads : List PendingReload) :
    Errand → Reply → Service → List PendingReload → Prop where
  | refused
      {question : Question}
      {problems : List FormProblem}
      (invalid : question.problems? = some problems) :
      Ends service tenant reloads (.ask question)
        (question.reply (.error (.requestError problems))) service reloads
  | served
      {question : Question}
      {existing : CachedRulebook}
      (valid : question.problems? = none)
      (found : service.cache.cached.get? tenant = some existing)
      (unexpired : existing.freshness service.cache.lifetimes service.now ≠ .expired) :
      Ends service tenant reloads (.ask question)
        (question.reply (.ok existing.rulebook)) (service.withCache Cache.countHit) reloads
  | refreshing
      {question : Question}
      {existing : CachedRulebook}
      (valid : question.problems? = none)
      (found : service.cache.cached.get? tenant = some existing)
      (stale : existing.freshness service.cache.lifetimes service.now = .stale) :
      Ends service tenant reloads (.ask question)
        (question.reply (.ok existing.rulebook))
        (service.withCache (·.countHit.claimRefresh existing.serial))
        (reloads ++ [{ reload := service.cache.observe tenant }])
  | missed
      {question : Question}
      (valid : question.problems? = none)
      (expired :
        ∀ existing ∈ service.cache.cached.get? tenant,
          existing.freshness service.cache.lifetimes service.now = .expired) :
      Ends service tenant reloads (.ask question) .underWay
        (service.withCache Cache.countMiss)
        (reloads ++
          [{ reload := service.cache.observe tenant, question? := some question }])
  | absent
      {place : Nat}
      (nothing : reloads[place]? = none) :
      Ends service tenant reloads (.proceed place) .done service reloads
  | loaded
      {place : Nat}
      {pending : PendingReload}
      (waits : reloads[place]? = some pending)
      (unread : pending.loaded? = none) :
      Ends service tenant reloads (.proceed place) .underWay
        (service.load pending.reload.tenant).2
        (reloads.set place
          { pending with loaded? := some (service.store.text pending.reload.tenant) })
  | unloaded
      {place : Nat}
      {pending : PendingReload}
      {error : SourceError}
      (waits : reloads[place]? = some pending)
      (read : pending.loaded? = some (.error error)) :
      Ends service tenant reloads (.proceed place)
        (pending.reply (.error (.sourceError error))) service (reloads.eraseIdx place)
  | failed
      {place : Nat}
      {pending : PendingReload}
      {text : String}
      {error : LendingError}
      (waits : reloads[place]? = some pending)
      (read : pending.loaded? = some (.ok text))
      (failure : Rulebook.ofText text = .error error) :
      Ends service tenant reloads (.proceed place)
        (pending.reply (.error error)) service (reloads.eraseIdx place)
  | revalidated
      {place : Nat}
      {pending : PendingReload}
      {text : String}
      {existing : CachedRulebook}
      (waits : reloads[place]? = some pending)
      (read : pending.loaded? = some (.ok text))
      (found : pending.reload.existing? = some existing)
      (same : existing.rulebook.digest = Digest.ofText text) :
      Ends service tenant reloads (.proceed place)
        (pending.reply (.ok existing.rulebook))
        (service.withCache fun cache =>
          { cache with counts.revalidations := cache.counts.revalidations + 1 }.install
            pending.reload existing.rulebook service.now)
        (reloads.eraseIdx place)
  | recompiled
      {place : Nat}
      {pending : PendingReload}
      {text : String}
      {rulebook : Rulebook}
      (waits : reloads[place]? = some pending)
      (read : pending.loaded? = some (.ok text))
      (compiled : Rulebook.ofText text = .ok rulebook) :
      Ends service tenant reloads (.proceed place)
        (pending.reply (.ok rulebook))
        (service.withCache fun cache =>
          { cache with counts.recompiles := cache.counts.recompiles + 1 }.install
            pending.reload rulebook service.now)
        (reloads.eraseIdx place)
  | abandoned
      {place : Nat}
      {reload : Reload}
      (waits : reloads[place]? = some { reload }) :
      Ends service tenant reloads (.abandon place) .done
        (reload.existing?.elim service fun existing =>
          service.withCache (·.unclaimRefresh existing.serial))
        (reloads.eraseIdx place)
  | kept (place : Nat) :
      Ends service tenant reloads (.abandon place) .done service reloads
  | readText :
      Ends service tenant reloads .readText
        (.text ((service.store.text tenant).mapError .sourceError))
        (service.load tenant).2 reloads
  | rejected
      {text : String}
      {error : LendingError}
      (invalidate : Bool)
      (failure : Rulebook.ofText text = .error error) :
      Ends service tenant reloads (.replaceText text invalidate)
        (.replaced (.error error)) service reloads
  | replacementRefused
      {text : String}
      {error : SourceError}
      (invalidate : Bool)
      (refusal : service.store.save tenant text = .error error) :
      Ends service tenant reloads (.replaceText text invalidate)
        (.replaced (.error (.sourceError error))) service reloads
  | replaced
      {text : String}
      {rulebook : Rulebook}
      {store : TextStore}
      (invalidate : Bool)
      (compiled : Rulebook.ofText text = .ok rulebook)
      (success : service.store.save tenant text = .ok store) :
      Ends service tenant reloads (.replaceText text invalidate)
        (.replaced (.ok rulebook.digest))
        { service with
          store
          cache :=
            if invalidate then service.cache.invalidate tenant else service.cache }
        reloads
  | saveRefused
      {text : String}
      {error : SourceError}
      (refusal : service.store.save tenant text = .error error) :
      Ends service tenant reloads (.save text)
        (.saved (.error (.sourceError error))) service reloads
  | saved
      {text : String}
      {store : TextStore}
      (success : service.store.save tenant text = .ok store) :
      Ends service tenant reloads (.save text)
        (.saved (.ok ())) { service with store } reloads
  | invalidated :
      Ends service tenant reloads .invalidate .done
        (service.withCache (·.invalidate tenant)) reloads
  | contains :
      Ends service tenant reloads .contains
        (.contained (service.cache.contains tenant)) service reloads

namespace Errand

/-- An errand ends in one of the listed ways. -/
theorem ends_run
    (service : Service)
    (tenant : String)
    (reloads : List PendingReload)
    (errand : Errand) :
    errand.Ends service tenant reloads
      (errand.run service tenant reloads).1
      (errand.run service tenant reloads).2.1
      (errand.run service tenant reloads).2.2 := by
  cases errand with
  | ask question =>
      cases checked : question.problems? with
      | some problems =>
          simp only [run, checked]
          exact .refused checked
      | none =>
          simp only [run, checked, Service.lookup, Cache.lookup]
          rcases service.cache.proceed_cases service.cache.lifetimes service.now
              (service.cache.observe tenant) with
            ⟨existing, found, unexpired, served⟩ |
              ⟨existing, found, stale, -, refreshing⟩ | ⟨expired, reloading⟩
          · rw [served]
            exact .served checked found unexpired
          · rw [refreshing]
            exact .refreshing checked found stale
          · rw [reloading]
            exact .missed checked expired
  | proceed place =>
      cases waits : reloads[place]? with
      | none =>
          simp only [run, waits]
          exact .absent waits
      | some pending =>
          cases read : pending.loaded? with
          | none =>
              simp only [run, waits, read]
              exact .loaded waits read
          | some loaded =>
              simp only [run, waits, read]
              rcases service.complete_cases pending.reload loaded with
                ⟨error, rfl, unloaded⟩ | ⟨text, error, rfl, failure, failed⟩ |
                  ⟨text, existing, rfl, found, same, kept⟩ | ⟨text, rulebook, rfl, compiled, made⟩
              · rw [unloaded]
                exact .unloaded waits read
              · rw [failed]
                exact .failed waits read failure
              · rw [kept]
                exact .revalidated waits read found same
              · rw [made]
                exact .recompiled waits read compiled
  | abandon place =>
      simp only [run]
      split
      · rename_i reload waits
        exact .abandoned waits
      · exact .kept place
  | readText => exact .readText
  | replaceText text invalidates =>
      simp only [run, Service.replaceText]
      cases compiled : Rulebook.ofText text with
      | error error => exact .rejected invalidates compiled
      | ok rulebook =>
          cases success : service.store.save tenant text with
          | error error => exact .replacementRefused invalidates success
          | ok store => exact .replaced invalidates compiled success
  | save text =>
      simp only [run, Service.saveText]
      cases success : service.store.save tenant text with
      | error error => exact .saveRefused success
      | ok store => exact .saved success
  | invalidate => exact .invalidated
  | contains => exact .contains

end Errand

/-- The reload that is left to do after a lookup. -/
def Lookup.reload? : Lookup → Option Reload
  | served _ => none
  | refreshing _ reload => some reload
  | reloading reload => some reload

/-- A lookup hands on what can still be observed afterwards. -/
theorem Service.reload_of_lookup
    {service : Service}
    {tenant : String}
    {reload : Reload}
    (left : (service.lookup tenant).1.reload? = some reload) :
    reload = (service.lookup tenant).2.cache.observe tenant := by
  simp only [lookup, Cache.lookup] at left ⊢
  rcases service.cache.proceed_cases service.cache.lifetimes service.now
      (service.cache.observe tenant) with
    ⟨existing, -, -, served⟩ | ⟨existing, -, -, -, refreshing⟩ | ⟨-, reloading⟩
  · rw [served] at left
    cases left
  · rw [refreshing] at left ⊢
    cases left
    rfl
  · rw [reloading] at left ⊢
    cases left
    rfl

namespace Service

/-- The reply of a service to a question, and the refresh that has to be run for it. -/
def respond
    (service : Service)
    (tenant : String) :
    Question → Reply × Option Reload × Service
  | .rulebook =>
      let (result, refresh?, service) := service.rulebook tenant
      (.rulebook result, refresh?, service)
  | .inquiry inquiry form =>
      let (result, refresh?, service) := service.inquire tenant inquiry form
      (.finding result, refresh?, service)

/-- A valid question is replied to by what becomes of the tenant's rulebook. -/
theorem respond_of_valid
    {question : Question}
    (valid : question.problems? = none)
    (service : Service)
    (tenant : String) :
    service.respond tenant question =
      (question.reply (service.rulebook tenant).1, (service.rulebook tenant).2) := by
  cases question with
  | rulebook => rfl
  | inquiry inquiry form =>
      cases checked : form.validate with
      | error problems => simp [Question.problems?, checked] at valid
      | ok request => simp [respond, inquire, Question.reply, checked]

/-- An invalid question is refused before anything is looked up. -/
theorem respond_of_invalid
    {question : Question}
    {problems : List FormProblem}
    (invalid : question.problems? = some problems)
    (service : Service)
    (tenant : String) :
    service.respond tenant question =
      (question.reply (.error (.requestError problems)), none, service) := by
  cases question with
  | rulebook => cases invalid
  | inquiry inquiry form =>
      cases checked : form.validate with
      | ok request => simp [Question.problems?, checked] at invalid
      | error others =>
          simp only [Question.problems?, checked, Option.some.injEq] at invalid
          subst invalid
          simp [respond, inquire, Question.reply, checked]

end Service

namespace Errand

/-- Ask and, if the answer is not at hand, proceed to it at once. -/
def askAtOnce
    (service : Service)
    (tenant : String)
    (reloads : List PendingReload)
    (question : Question) : Reply × Service × List PendingReload :=
  let asked := (ask question).run service tenant reloads
  if asked.1 = .underWay then
    let loaded := (proceed reloads.length).run asked.2.1 tenant asked.2.2
    (proceed reloads.length).run loaded.2.1 tenant loaded.2.2
  else
    asked

/-- Whoever asks and proceeds at once is replied to as the service replies to a question. -/
theorem askAtOnce_eq_respond
    (service : Service)
    (tenant : String)
    (reloads : List PendingReload)
    (question : Question) :
    askAtOnce service tenant reloads question =
      ((service.respond tenant question).1, (service.respond tenant question).2.2,
        reloads ++ (service.respond tenant question).2.1.toList.map ({ reload := · })) := by
  cases checked : question.problems? with
  | some problems => simp [askAtOnce, run, checked, Service.respond_of_invalid checked]
  | none =>
      have observed (reload : Reload) :
          (service.lookup tenant).1.reload? = some reload →
            reload = (service.lookup tenant).2.cache.observe tenant :=
        Service.reload_of_lookup
      simp only [askAtOnce, run, checked, Service.respond_of_valid checked, Service.rulebook,
        Service.access]
      rcases looked : service.lookup tenant with ⟨found, after⟩
      rw [looked] at observed
      cases found with
      | served rulebook => simp
      | refreshing rulebook reload => simp
      | reloading reload =>
          have ofTenant : reload.tenant = tenant := congrArg Reload.tenant (observed reload rfl)
          simp [ofTenant, PendingReload.reply, List.eraseIdx_append_of_length_le]

end Errand

namespace Office

/-- An errand leaves an office behind as it ends. -/
theorem ends_act (office : Office) (tenant : String) (errand : Errand) :
    errand.Ends office.service tenant (office.reloads tenant)
      (office.act (.errand tenant errand)).1
      (office.act (.errand tenant errand)).2.service
      ((office.act (.errand tenant errand)).2.reloads tenant) := by
  have ends := errand.ends_run office.service tenant (office.reloads tenant)
  simpa only [act, Function.update_self] using ends

/-- An errand for one tenant leaves the reloads of all others as they are. -/
theorem reloads_act_other
    {tenant other : String}
    (different : other ≠ tenant)
    (office : Office)
    (errand : Errand) :
    (office.act (.errand tenant errand)).2.reloads other = office.reloads other :=
  Function.update_of_ne different _ _

end Office

end LendingRules
