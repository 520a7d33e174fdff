import LendingRules.Proofs.Tenancy.Renumbering
import Mathlib.Data.List.InsertIdx

namespace LendingRules

/-!
# Nobody notices the other tenants

Take out of a run whatever is done for the other tenants of an office. The office
that is left numbers its rulebooks differently, as the numbers that the others used
up are missing, but to a tenant it replies as before. Both runs are followed act by
act: an act for another tenant leaves the two offices alike because it is confined
to that tenant, and any other act is done by both.
-/

/-- Whether an act is done for a tenant or for all tenants together. -/
def Act.concerns (tenant : String) : Act → Bool
  | .errand other _ => other = tenant
  | _ => true

namespace Service.Mirrors

variable
  {tenant : String}
  {numbers : Nat → Nat}
  {full part : Service}
  {reloads reloadsPart : List PendingReload}

/-- The reload that a lookup leaves to do is under way in both services alike. -/
theorem concat_observed
    (mirrors : full.Mirrors tenant numbers reloads part reloadsPart)
    {reload : Reload}
    (observed : reload = full.cache.observe tenant)
    (question? : Option Question) :
    full.Mirrors tenant numbers (reloads ++ [{ reload := reload, question? }]) part
      (reloadsPart ++ [{ reload := reload.renumber numbers, question? }]) := by
  subst observed
  let observed : PendingReload := { reload := full.cache.observe tenant, question? }
  have underWay :
      reloadsPart ++ [observed.renumber numbers] =
        (reloads ++ [observed]).map (·.renumber numbers) := by
    rw [mirrors.underWay, List.map_append]
    rfl
  exact underWay ▸ mirrors.of_reloads fun serial held => held.of_observe

/-- A reload under way goes away in both services alike. -/
theorem eraseIdx
    (mirrors : full.Mirrors tenant numbers reloads part reloadsPart)
    (place : Nat) :
    full.Mirrors tenant numbers (reloads.eraseIdx place) part (reloadsPart.eraseIdx place) := by
  rw [mirrors.underWay, List.eraseIdx_map]
  exact mirrors.of_reloads fun serial held =>
    held.of_subset (List.eraseIdx_sublist reloads place).subset

/-- What was loaded is kept with a reload under way in both services alike. -/
theorem set_loaded
    (mirrors : full.Mirrors tenant numbers reloads part reloadsPart)
    {place : Nat}
    {pending : PendingReload}
    (waits : reloads[place]? = some pending)
    (loaded : Except SourceError String) :
    full.Mirrors tenant numbers
      (reloads.set place { pending with loaded? := some loaded }) part
      (reloadsPart.set place { pending.renumber numbers with loaded? := some loaded }) := by
  have underWay :
      reloadsPart.set place { pending.renumber numbers with loaded? := some loaded } =
        (reloads.set place { pending with loaded? := some loaded }).map (·.renumber numbers) := by
    rw [mirrors.underWay, List.map_set]
    rfl
  rw [underWay]
  exact mirrors.of_reloads fun serial held => held.of_set_loaded waits

end Service.Mirrors

/-- An errand ended in two services alike: with the same reply, and still looking alike. -/
def Errand.EndAlike
    (tenant : String)
    (full part : Reply × Service × List PendingReload) : Prop :=
  part.1 = full.1 ∧
    ∃ numbers, full.2.1.Mirrors tenant numbers full.2.2 part.2.1 part.2.2

namespace Service.Mirrors

variable
  {tenant : String}
  {numbers : Nat → Nat}
  {full part : Service}
  {reloads reloadsPart : List PendingReload}

/-- A question of the tenant is met alike. -/
theorem ask
    (mirrors : full.Mirrors tenant numbers reloads part reloadsPart)
    (question : Question) :
    Errand.EndAlike tenant
      ((Errand.ask question).run full tenant reloads)
      ((Errand.ask question).run part tenant reloadsPart) := by
  cases checked : question.problems? with
  | some problems =>
      simp only [Errand.run, checked]
      exact ⟨rfl, numbers, mirrors⟩
  | none =>
      simp only [Errand.run, checked]
      obtain ⟨found, alike⟩ := mirrors.lookup
      have observed (reload : Reload) :
          (full.lookup tenant).1.reload? = some reload →
            reload = (full.lookup tenant).2.cache.observe tenant :=
        Service.reload_of_lookup
      cases looked : full.lookup tenant with
      | mk outcome after =>
          cases lookedPart : part.lookup tenant with
          | mk outcomePart afterPart =>
              simp only [looked, lookedPart] at found alike observed
              subst found
              cases outcome with
              | served rulebook => exact ⟨rfl, numbers, alike⟩
              | refreshing rulebook reload =>
                  exact ⟨rfl, numbers, alike.concat_observed (observed reload rfl) none⟩
              | reloading reload =>
                  exact ⟨rfl, numbers, alike.concat_observed (observed reload rfl) (some question)⟩

/-- The place of a reload holds the same reload in both services. -/
theorem getElem?_underWay
    (mirrors : full.Mirrors tenant numbers reloads part reloadsPart)
    (place : Nat) :
    reloadsPart[place]? = (reloads[place]?).map (·.renumber numbers) := by
  rw [mirrors.underWay, List.getElem?_map]

/-- A reload of the tenant goes on alike. -/
theorem proceed
    (mirrors : full.Mirrors tenant numbers reloads part reloadsPart)
    (known : full.Known tenant reloads)
    (knownPart : part.Known tenant reloadsPart)
    (tenants : ∀ pending ∈ reloads, pending.reload.tenant = tenant)
    (place : Nat) :
    Errand.EndAlike tenant
      ((Errand.proceed place).run full tenant reloads)
      ((Errand.proceed place).run part tenant reloadsPart) := by
  simp only [Errand.run, mirrors.getElem?_underWay]
  cases waits : reloads[place]? with
  | none => exact ⟨rfl, numbers, mirrors⟩
  | some pending =>
      have ofTenant : pending.reload.tenant = tenant :=
        tenants pending (List.mem_of_getElem? waits)
      simp only [Option.map_some, PendingReload.renumber]
      cases read : pending.loaded? with
      | none =>
          have sameText := mirrors.storedText
          have counted : (full.load tenant).2.Mirrors tenant numbers reloads
              (part.load tenant).2 reloadsPart :=
            { mirrors with }
          simp only [Service.load, TextStore.load, Reload.tenant_renumber, ofTenant, sameText]
            at counted ⊢
          exact ⟨rfl, numbers, counted.set_loaded waits _⟩
      | some loaded =>
          obtain ⟨numbers', alike⟩ := mirrors.complete known knownPart ofTenant loaded
          refine ⟨?_, numbers', alike.eraseIdx place⟩
          exact congrArg pending.reply
            (full.result_complete_renumber part numbers pending.reload loaded)

/-- A refresh of the tenant that cannot be started is given up alike. -/
theorem abandon
    (mirrors : full.Mirrors tenant numbers reloads part reloadsPart)
    (place : Nat) :
    Errand.EndAlike tenant
      ((Errand.abandon place).run full tenant reloads)
      ((Errand.abandon place).run part tenant reloadsPart) := by
  simp only [Errand.run, mirrors.getElem?_underWay]
  cases waits : reloads[place]? with
  | none => exact ⟨rfl, numbers, mirrors⟩
  | some pending =>
      obtain ⟨reload, question?, loaded?⟩ := pending
      cases question? with
      | some question => exact ⟨rfl, numbers, mirrors⟩
      | none =>
          cases loaded? with
          | some loaded => exact ⟨rfl, numbers, mirrors⟩
          | none =>
              simp only [Option.map_some, PendingReload.renumber, Reload.renumber]
              cases found : reload.existing? with
              | none => exact ⟨rfl, numbers, mirrors.eraseIdx place⟩
              | some existing =>
                  have held : full.Holds tenant reloads existing.serial :=
                    .inr ⟨_, List.mem_of_getElem? waits, existing, found, rfl⟩
                  exact ⟨rfl, numbers, (mirrors.unclaimRefresh held).eraseIdx place⟩

/-- A replacement of the tenant's text ends alike. -/
theorem replaceText
    (mirrors : full.Mirrors tenant numbers reloads part reloadsPart)
    (text : String)
    (invalidates : Bool) :
    Errand.EndAlike tenant
      ((Errand.replaceText text invalidates).run full tenant reloads)
      ((Errand.replaceText text invalidates).run part tenant reloadsPart) := by
  simp only [Errand.run, Service.replaceText]
  cases Rulebook.ofText text with
  | error error => exact ⟨rfl, numbers, mirrors⟩
  | ok rulebook =>
      rcases mirrors.save text with
        ⟨error, refused, refusedPart⟩ | ⟨store, storePart, saved, savedPart, alike⟩
      · simp only [refused, refusedPart]
        exact ⟨rfl, numbers, mirrors⟩
      · simp only [saved, savedPart]
        cases invalidates with
        | false => exact ⟨rfl, numbers, alike⟩
        | true => exact ⟨rfl, numbers, alike.invalidate⟩

/-- A text of the tenant is written or refused alike. -/
theorem saveText
    (mirrors : full.Mirrors tenant numbers reloads part reloadsPart)
    (text : String) :
    Errand.EndAlike tenant
      ((Errand.save text).run full tenant reloads)
      ((Errand.save text).run part tenant reloadsPart) := by
  simp only [Errand.run, Service.saveText]
  rcases mirrors.save text with
    ⟨error, refused, refusedPart⟩ | ⟨store, storePart, saved, savedPart, alike⟩
  · simp only [refused, refusedPart]
    exact ⟨rfl, numbers, mirrors⟩
  · simp only [saved, savedPart]
    exact ⟨rfl, numbers, alike⟩

/-- Every errand of the tenant ends alike. -/
theorem errand
    (mirrors : full.Mirrors tenant numbers reloads part reloadsPart)
    (known : full.Known tenant reloads)
    (knownPart : part.Known tenant reloadsPart)
    (tenants : ∀ pending ∈ reloads, pending.reload.tenant = tenant)
    (errand : Errand) :
    Errand.EndAlike tenant
      (errand.run full tenant reloads)
      (errand.run part tenant reloadsPart) := by
  cases errand with
  | ask question => exact mirrors.ask question
  | proceed place => exact mirrors.proceed known knownPart tenants place
  | abandon place => exact mirrors.abandon place
  | readText =>
      have sameText := mirrors.storedText
      refine ⟨?_, numbers, { mirrors with }⟩
      simp only [Errand.run, Service.load, TextStore.load, sameText]
  | replaceText text invalidates => exact mirrors.replaceText text invalidates
  | save text => exact mirrors.saveText text
  | invalidate => exact ⟨rfl, numbers, mirrors.invalidate⟩
  | contains =>
      refine ⟨?_, numbers, mirrors⟩
      simp only [Errand.run, Cache.contains, TenantMap.contains, mirrors.cached,
        Option.isSome_map]

end Service.Mirrors

namespace Office

/-- To a tenant one office looks like another one. -/
def LooksLike (tenant : String) (full part : Office) : Prop :=
  ∃ numbers,
    full.service.Mirrors tenant numbers (full.reloads tenant)
      part.service (part.reloads tenant)

variable {tenant : String} {full part : Office}

/-- An office looks to a tenant as before when it has run an errand for another one. -/
theorem LooksLike.errand_other
    (alike : full.LooksLike tenant part)
    (numbered : full.Numbered)
    {other : String}
    (different : other ≠ tenant)
    (errand : Errand) :
    (full.act (.errand other errand)).2.LooksLike tenant part := by
  obtain ⟨numbers, mirrors⟩ := alike
  have confined := numbered.confined other errand
  have holds := numbered.holds_act_other different.symm errand
  refine ⟨numbers, ?_⟩
  exact
    { now := mirrors.now.trans confined.now.symm
      outage := mirrors.outage.trans confined.outage.symm
      text := mirrors.text.trans (confined.text tenant different.symm).symm
      lifetimes := mirrors.lifetimes.trans confined.lifetimes.symm
      generation := mirrors.generation.trans (confined.generation tenant different.symm).symm
      cached := by rw [confined.cached tenant different.symm, mirrors.cached]
      underWay := by rw [reloads_act_other different.symm, mirrors.underWay]
      distinct := fun first second held heldToo =>
        mirrors.distinct first second ((holds first).mp held) ((holds second).mp heldToo)
      refreshed := by
        intro serial held
        have heldBefore := (holds serial).mp held
        have foreign :
            ¬ full.service.Holds other (full.reloads other) serial :=
          fun heldByOther =>
            different (numbered.owned tenant other serial heldBefore heldByOther)
        exact (mirrors.refreshed serial heldBefore).trans (confined.refreshed serial foreign).symm }

/-- What concerns a tenant is done by both offices with the same reply. -/
theorem LooksLike.act
    (alike : full.LooksLike tenant part)
    (numbered : full.Numbered)
    (numberedPart : part.Numbered)
    {act : Act}
    (concerns : act.concerns tenant = true) :
    (part.act act).1 = (full.act act).1 ∧
      (full.act act).2.LooksLike tenant (part.act act).2 := by
  obtain ⟨numbers, mirrors⟩ := alike
  cases act with
  | errand other errand =>
      obtain rfl : other = tenant := of_decide_eq_true concerns
      obtain ⟨sameReply, looksLike⟩ :=
        mirrors.errand (numbered.known other) (numberedPart.known other)
          (numbered.tenants other) errand
      refine ⟨sameReply, ?_⟩
      simpa only [LooksLike, Office.act, Function.update_self] using looksLike
  | setLifetimes lifetimes => exact ⟨rfl, numbers, { mirrors with lifetimes := rfl }⟩
  | dropAll => exact ⟨rfl, numbers, mirrors.dropAll⟩
  | advance span =>
      exact ⟨rfl, numbers, { mirrors with now := congrArg (· + span) mirrors.now }⟩
  | setOutage outage? => exact ⟨rfl, numbers, { mirrors with outage := rfl }⟩

/-- Two offices that look alike to a tenant do so without the acts for the others in one. -/
theorem LooksLike.told
    (alike : full.LooksLike tenant part)
    (numbered : full.Numbered)
    (numberedPart : part.Numbered)
    (acts : List Act) :
    part.told (acts.filter (·.concerns tenant)) =
      (full.told acts).filter (·.1.concerns tenant) := by
  induction acts generalizing full part with
  | nil => rfl
  | cons act rest inductionHypothesis =>
      by_cases concerns : act.concerns tenant = true
      · obtain ⟨sameReply, looksLike⟩ := alike.act numbered numberedPart concerns
        have later := inductionHypothesis looksLike (numbered.act act) (numberedPart.act act)
        simp only [List.filter_cons, Office.told, concerns, if_true, sameReply, later]
      · simp only [List.filter_cons, Office.told, concerns]
        refine inductionHypothesis ?_ (numbered.act act) numberedPart
        cases act with
        | errand other errand =>
            refine alike.errand_other numbered ?_ errand
            rintro rfl
            exact concerns (decide_eq_true rfl)
        | _ => exact absurd rfl concerns

/-- Offices that have not done anything yet look alike to everyone. -/
theorem looksLike_start
    (lifetimes : Lifetimes)
    (texts : List (String × String))
    (tenant : String) :
    (start lifetimes texts).LooksLike tenant (start lifetimes texts) :=
  ⟨id, rfl, rfl, rfl, rfl, rfl, rfl, rfl, fun _ _ _ _ same => same, fun _ _ => .rfl⟩

/--
An office replies to what concerns a tenant, all along a run, as it would if nothing
had been done for the other tenants.
-/
theorem told_without_other_tenants
    (lifetimes : Lifetimes)
    (texts : List (String × String))
    (tenant : String)
    (acts : List Act) :
    (start lifetimes texts).told (acts.filter (·.concerns tenant)) =
      ((start lifetimes texts).told acts).filter (·.1.concerns tenant) :=
  (looksLike_start lifetimes texts tenant).told (numbered_start lifetimes texts)
    (numbered_start lifetimes texts) acts

end Office

end LendingRules
