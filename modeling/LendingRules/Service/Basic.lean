import LendingRules.Cache.Basic
import LendingRules.Service.Inquiry
import LendingRules.Tenant.TextStore

namespace LendingRules

/-!
# The lending service

The service answers inquiries of many tenants from their stored rule text,
through the cache. A get that has to reload consists of three moves, between
which other things may happen: the lookup, the load of the text, and the
completion. Background refreshes are handed to the caller, who runs them when
their time has come.
-/

/-- The stored texts, the cache, and the time. -/
structure Service where
  store : TextStore
  cache : Cache
  now : Nat
  deriving DecidableEq

/-- How far a get comes at once: to a rulebook, or to a text that was read. -/
inductive Access where
  | ready (rulebook : Rulebook) (refresh? : Option Reload)
  | loading (reload : Reload) (loaded : Except SourceError String)

namespace Service

/-- A service over some stored texts at time zero. -/
def start (lifetimes : Lifetimes) (texts : List (String × String)) : Service where
  store := .ofPairs texts
  cache := .empty lifetimes
  now := 0

/-- Look a tenant up in the cache. -/
def lookup (service : Service) (tenant : String) : Lookup × Service :=
  let (found, cache) := service.cache.lookup service.now tenant
  (found, { service with cache })

/-- Read the stored text of a tenant. -/
def load (service : Service) (tenant : String) : Except SourceError String × Service :=
  let (loaded, store) := service.store.load tenant
  (loaded, { service with store })

/-- Complete a reload with what its load gave. -/
def complete
    (service : Service)
    (reload : Reload)
    (loaded : Except SourceError String) :
    Except LendingError Rulebook × Service :=
  match loaded with
  | .error error => (.error (.sourceError error), service)
  | .ok text =>
      let (result, cache) := service.cache.complete reload text service.now
      (result, { service with cache })

/-- Look a tenant up and, when nothing can be served, read its text. -/
def access (service : Service) (tenant : String) : Access × Service :=
  match service.lookup tenant with
  | (.served rulebook, service) => (.ready rulebook none, service)
  | (.refreshing rulebook reload, service) => (.ready rulebook (some reload), service)
  | (.reloading reload, service) =>
      let (loaded, service) := service.load tenant
      (.loading reload loaded, service)

/--
The rulebook of a tenant, with the background refresh that has to be run for
it.
-/
def rulebook
    (service : Service)
    (tenant : String) :
    Except LendingError Rulebook × Option Reload × Service :=
  match service.access tenant with
  | (.ready rulebook refresh?, service) => (.ok rulebook, refresh?, service)
  | (.loading reload loaded, service) =>
      let (result, service) := service.complete reload loaded
      (result, none, service)

/-- Run a background refresh from its load to its completion. -/
def refresh (service : Service) (reload : Reload) : Service :=
  let (loaded, service) := service.load reload.tenant
  (service.complete reload loaded).2

/--
Answer an inquiry about the request on a form. The form is validated before any
rule is looked up.
-/
def inquire
    (service : Service)
    (tenant : String)
    (inquiry : Inquiry)
    (form : RequestForm) :
    Except LendingError Finding × Option Reload × Service :=
  match form.validate with
  | .error problems => (.error (.requestError problems), none, service)
  | .ok request =>
      let (result, refresh?, service) := service.rulebook tenant
      (result.bind (inquiry.answer · request), refresh?, service)

/--
Replace the rule text of a tenant by one that compiles, and invalidate what is
cached for the tenant if so asked. The result is the digest of the text.
-/
def replaceText
    (service : Service)
    (tenant text : String)
    (invalidate : Bool) :
    Except LendingError Digest × Service :=
  match Rulebook.ofText text with
  | .error error => (.error error, service)
  | .ok rulebook =>
      match service.store.save tenant text with
      | .error error => (.error (.sourceError error), service)
      | .ok store =>
          let cache :=
            if invalidate then service.cache.invalidate tenant else service.cache
          (.ok rulebook.digest, { service with store, cache })

/-- Put a text into the store without checking it. -/
def saveText
    (service : Service)
    (tenant text : String) :
    Except LendingError Service :=
  match service.store.save tenant text with
  | .error error => .error (.sourceError error)
  | .ok store => .ok { service with store }

/-- Let time pass. -/
def advance (service : Service) (span : Span) : Service :=
  { service with now := service.now + span }

/-- Change the cache. -/
def withCache (service : Service) (change : Cache → Cache) : Service :=
  { service with cache := change service.cache }

/-- Begin an outage of the store, or end it. -/
def setOutage (service : Service) (outage? : Option String) : Service :=
  { service with store := { service.store with outage? } }

/-- Whether a rulebook was made from the text now stored for a tenant. -/
def isCurrent? (service : Service) (tenant : String) (rulebook : Rulebook) : Option Bool :=
  (service.store.texts.get? tenant).map fun text =>
    rulebook.digest = Digest.ofText text

/-- An invalid form is answered without touching the service. -/
theorem inquire_of_invalid
    {form : RequestForm}
    {problems : List FormProblem}
    (invalid : form.validate = .error problems)
    (service : Service)
    (tenant : String)
    (inquiry : Inquiry) :
    service.inquire tenant inquiry form =
      (.error (.requestError problems), none, service) := by
  simp [inquire, invalid]

end Service

end LendingRules
