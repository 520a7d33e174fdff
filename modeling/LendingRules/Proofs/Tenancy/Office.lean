import LendingRules.Service.Basic
import Mathlib.Control.Monad.Basic
import Mathlib.Logic.Function.Basic

namespace LendingRules

/-!
# An office for many tenants

An office runs the errands of all tenants, one act after the other, and replies
to every one of them. A question whose answer is not at hand comes in three acts,
its lookup, the load of the text and the completion; a background refresh comes
in the last two of these. Between them the office may do anything for any tenant.
Reloads under way are told by their place among those of their tenant, so that
errands for different tenants never speak of the same reload.
-/

/-- What is asked of the rules of a tenant. -/
inductive Question where
  | rulebook
  | inquiry (inquiry : Inquiry) (form : RequestForm)
  deriving Repr, DecidableEq

/-- What is done for one tenant. -/
inductive Errand where
  | ask (question : Question)
  | proceed (place : Nat)
  | abandon (place : Nat)
  | readText
  | replaceText (text : String) (invalidate : Bool)
  | save (text : String)
  | invalidate
  | contains
  deriving Repr, DecidableEq

/-- What an office does: an errand for a tenant, or something that concerns all of them. -/
inductive Act where
  | errand (tenant : String) (errand : Errand)
  | setLifetimes (lifetimes : Lifetimes)
  | dropAll
  | advance (span : Span)
  | setOutage (outage? : Option String)
  deriving Repr, DecidableEq

/-- What is replied to an act. -/
inductive Reply where
  | rulebook (result : Except LendingError Rulebook)
  | finding (result : Except LendingError Finding)
  | text (result : Except LendingError String)
  | replaced (result : Except LendingError Digest)
  | saved (result : Except LendingError Unit)
  | contained (holds : Bool)
  | underWay
  | done
  deriving DecidableEq

/--
A reload after its lookup: the question that waits for it, if it is not a refresh
in the background, and what was loaded, if that has been done.
-/
structure PendingReload where
  reload : Reload
  question? : Option Question := none
  loaded? : Option (Except SourceError String) := none

namespace Question

/-- What is wrong with the form of a question. -/
def problems? : Question → Option (List FormProblem)
  | rulebook => none
  | inquiry _ form =>
      match form.validate with
      | .error problems => some problems
      | .ok _ => none

/-- The reply to a question when the rulebook of its tenant is obtained or not. -/
def reply (obtained : Except LendingError Rulebook) : Question → Reply
  | rulebook => .rulebook obtained
  | inquiry asked form =>
      .finding <|
        match form.validate with
        | .error problems => .error (.requestError problems)
        | .ok request => obtained.bind (asked.answer · request)

@[simp] theorem reply_ne_underWay
    (question : Question)
    (obtained : Except LendingError Rulebook) :
    question.reply obtained ≠ .underWay := by
  cases question <;> simp [reply]

end Question

namespace PendingReload

/-- The reply when a reload is completed. -/
def reply (pending : PendingReload) (result : Except LendingError Rulebook) : Reply :=
  pending.question?.elim .done (·.reply result)

end PendingReload

namespace Errand

/-- Run an errand: the reply, the service afterwards, and the reloads of the tenant. -/
def run
    (service : Service)
    (tenant : String)
    (reloads : List PendingReload) :
    Errand → Reply × Service × List PendingReload
  | ask question =>
      match question.problems? with
      | some problems =>
          (question.reply (.error (.requestError problems)), service, reloads)
      | none =>
          match service.lookup tenant with
          | (.served rulebook, service) => (question.reply (.ok rulebook), service, reloads)
          | (.refreshing rulebook reload, service) =>
              (question.reply (.ok rulebook), service, reloads ++ [{ reload }])
          | (.reloading reload, service) =>
              (.underWay, service, reloads ++ [{ reload, question? := some question }])
  | proceed place =>
      match reloads[place]? with
      | none => (.done, service, reloads)
      | some pending =>
          match pending.loaded? with
          | none =>
              let (loaded, service) := service.load pending.reload.tenant
              (.underWay, service, reloads.set place { pending with loaded? := some loaded })
          | some loaded =>
              let (result, service) := service.complete pending.reload loaded
              (pending.reply result, service, reloads.eraseIdx place)
  | abandon place =>
      match reloads[place]? with
      | some ⟨reload, none, none⟩ =>
          (.done,
            reload.existing?.elim service fun existing =>
              service.withCache (·.unclaimRefresh existing.serial),
            reloads.eraseIdx place)
      | _ => (.done, service, reloads)
  | readText =>
      let (loaded, service) := service.load tenant
      (.text (loaded.mapError .sourceError), service, reloads)
  | replaceText text invalidates =>
      let (result, service) := service.replaceText tenant text invalidates
      (.replaced result, service, reloads)
  | save text =>
      match service.saveText tenant text with
      | .error error => (.saved (.error error), service, reloads)
      | .ok service => (.saved (.ok ()), service, reloads)
  | invalidate => (.done, service.withCache (·.invalidate tenant), reloads)
  | contains => (.contained (service.cache.contains tenant), service, reloads)

end Errand

/-- A service and the reloads under way for each tenant, oldest first. -/
structure Office where
  service : Service
  reloads : String → List PendingReload

namespace Office

/-- An office that has not done anything yet. -/
def start (lifetimes : Lifetimes) (texts : List (String × String)) : Office where
  service := .start lifetimes texts
  reloads := fun _ => []

/-- Do one act and reply to it. -/
def act (office : Office) : Act → Reply × Office
  | .errand tenant errand =>
      let (reply, service, reloads) :=
        errand.run office.service tenant (office.reloads tenant)
      (reply, { service, reloads := Function.update office.reloads tenant reloads })
  | .setLifetimes lifetimes =>
      (.done, { office with service := office.service.withCache (·.setLifetimes lifetimes) })
  | .dropAll => (.done, { office with service := office.service.withCache Cache.dropAll })
  | .advance span => (.done, { office with service := office.service.advance span })
  | .setOutage outage? => (.done, { office with service := office.service.setOutage outage? })

/-- Do one act after the other. -/
def run (office : Office) (acts : List Act) : Office :=
  acts.foldl (fun office act => (office.act act).2) office

/-- The acts of a run, each with the reply to it. -/
def told (office : Office) : List Act → List (Act × Reply)
  | [] => []
  | act :: rest => (act, (office.act act).1) :: (office.act act).2.told rest

@[simp] theorem run_nil (office : Office) : office.run [] = office :=
  rfl

@[simp] theorem run_cons (office : Office) (act : Act) (rest : List Act) :
    office.run (act :: rest) = (office.act act).2.run rest :=
  rfl

@[simp] theorem run_concat (office : Office) (acts : List Act) (act : Act) :
    office.run (acts ++ [act]) = ((office.run acts).act act).2 := by
  simp [run]

@[simp] theorem told_concat (office : Office) (acts : List Act) (act : Act) :
    office.told (acts ++ [act]) = office.told acts ++ [(act, ((office.run acts).act act).1)] := by
  induction acts generalizing office with
  | nil => rfl
  | cons first rest inductionHypothesis =>
      simp [told, inductionHypothesis]

/-- What is told of a run is told of some act that was done after others. -/
theorem exists_prefix_of_told
    {office : Office}
    {acts : List Act}
    {act : Act}
    {reply : Reply}
    (told : (act, reply) ∈ office.told acts) :
    ∃ earlier, earlier ++ [act] <+: acts ∧
      reply = ((office.run earlier).act act).1 := by
  induction acts generalizing office with
  | nil => cases told
  | cons first rest inductionHypothesis =>
      rcases List.mem_cons.mp told with now | later
      · cases now
        exact ⟨[], List.prefix_append [_] rest, rfl⟩
      · obtain ⟨earlier, before, replied⟩ := inductionHypothesis later
        exact ⟨first :: earlier, List.cons_prefix_cons.mpr ⟨rfl, before⟩, replied⟩

end Office

end LendingRules
