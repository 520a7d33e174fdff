import LendingRules.Service.Basic

namespace LendingRules

/-!
# Sessions

A session runs commands on a service one after the other and reports on each.
Commands may be nested in the middle of another one: they run between the load
of a reload and its completion. Background refreshes run at once, unless their
tenant is on hold; then the text is read at once and the rest waits for a
release.
-/

/-- One command of a session. -/
inductive Command where
  | replace (tenant text : String) (invalidate : Bool)
  | save (tenant text : String)
  | readText (tenant : String)
  | inquire (tenant : String) (inquiry : Inquiry) (form : RequestForm)
  | rulebook (tenant : String)
  | version (tenant : String)
  | setLifetimes (lifetimes : Lifetimes)
  | lifetimes
  | dropAll
  | invalidate (tenant : String)
  | contains (tenant : String)
  | tenants
  | describe
  | advance (span : Span)
  | shut (reason : String)
  | reopen
  | hold (tenant : String)
  | unhold (tenant : String)
  | release
  deriving Repr, DecidableEq

/-- A command with the steps to run in the middle of its load, if any are given. -/
inductive Step where
  | mk (command : Command) (hasMeanwhile : Bool) (meanwhile : List Step)

/-- What a command answers. -/
inductive Answer where
  | failed (error : LendingError)
  | replaced (digestOfText : Bool)
  | saved
  | text (text : String)
  | finding (finding : Finding)
  | rulebook (rulebook : Rulebook) (current? : Option Bool)
  | version (digest : Digest)
  | lifetimes (lifetimes : Lifetimes)
  | truth (holds : Bool)
  | contents (contains : Bool) (size : Nat) (isEmpty : Bool)
  | tenants (names : List String)
  | description (text : String)
  | advanced
  | shut
  | reopened
  | held
  | unheld
  | released (tenant? : Option String)

/-- The counts that a report shows. -/
structure Statistics where
  counts : CacheCounts
  refreshes : Nat
  entries : Nat
  loads : Nat
  deriving Repr, DecidableEq

/--
The report on one step: its answer, the statistics after it, and, if steps were
to run meanwhile, their reports when the command did load.
-/
inductive StepReport where
  | mk (answer : Answer) (statistics : Statistics)
      (hasMeanwhile : Bool) (meanwhile? : Option (List StepReport))

/-- A background refresh that has read its text and waits for its release. -/
structure HeldRefresh where
  reload : Reload
  loaded : Except SourceError String

/-- A service with the tenants on hold and the refreshes held, oldest first. -/
structure Session where
  service : Service
  holds : List String
  held : List HeldRefresh
  clockIsManual : Bool

namespace Session

/-- A session at its beginning. -/
def start (service : Service) (clockIsManual : Bool) : Session where
  service
  holds := []
  held := []
  clockIsManual

/-- The statistics of the session. -/
def statistics (session : Session) : Statistics where
  counts := session.service.cache.counts
  refreshes := session.service.cache.refreshes
  entries := session.service.cache.size
  loads := session.service.store.loads

/-- Start a background refresh: run it, or read its text and hold it. -/
def startRefresh (session : Session) (reload : Reload) : Session :=
  if reload.tenant ∈ session.holds then
    let (loaded, service) := session.service.load reload.tenant
    { session with service, held := session.held ++ [⟨reload, loaded⟩] }
  else
    { session with service := session.service.refresh reload }

/-- Let the oldest held refresh finish. -/
def release (session : Session) : Option String × Session :=
  match session.held with
  | [] => (none, session)
  | first :: others =>
      let (_, service) := session.service.complete first.reload first.loaded
      (some first.reload.tenant, { session with service, held := others })

/-- Run a change on the service. -/
def onService (session : Session) (change : Service → Service) : Session :=
  { session with service := change session.service }

/-- The steps that run in the middle of a load, as a move of the session. -/
abbrev Interlude :=
  Session → List StepReport × Session

/--
The rulebook of a tenant. When a text has to be read the interlude runs before
the reload is completed, and its reports are returned.
-/
def rulebook
    (session : Session)
    (interlude : Interlude)
    (tenant : String) :
    Except LendingError Rulebook × Option (List StepReport) × Session :=
  match session.service.access tenant with
  | (.ready rulebook refresh?, service) =>
      let session := { session with service }
      (.ok rulebook, none, refresh?.elim session session.startRefresh)
  | (.loading reload loaded, service) =>
      let (reports, session) := interlude { session with service }
      let (result, service) := session.service.complete reload loaded
      (result, some reports, { session with service })

/-- Obtain the rulebook of a tenant and make an answer of it. -/
def answerFromRulebook
    (session : Session)
    (interlude : Interlude)
    (tenant : String)
    (answer : Session → Rulebook → Answer) :
    Answer × Option (List StepReport) × Session :=
  let (result, reports?, session) := session.rulebook interlude tenant
  match result with
  | .error error => (.failed error, reports?, session)
  | .ok rulebook => (answer session rulebook, reports?, session)

/-- Carry out one command, with an interlude should it load. -/
def perform
    (session : Session)
    (interlude : Interlude) :
    Command → Answer × Option (List StepReport) × Session
  | .replace tenant text invalidate =>
      match session.service.replaceText tenant text invalidate with
      | (.error error, service) => (.failed error, none, { session with service })
      | (.ok digest, service) =>
          (.replaced (digest = Digest.ofText text), none, { session with service })
  | .save tenant text =>
      match session.service.saveText tenant text with
      | .error error => (.failed error, none, session)
      | .ok service => (.saved, none, { session with service })
  | .readText tenant =>
      let (loaded, service) := session.service.load tenant
      let (reports, session) := interlude { session with service }
      match loaded with
      | .error error => (.failed (.sourceError error), some reports, session)
      | .ok text => (.text text, some reports, session)
  | .inquire tenant inquiry form =>
      match form.validate with
      | .error problems => (.failed (.requestError problems), none, session)
      | .ok request =>
          session.answerFromRulebook interlude tenant fun _ rulebook =>
            match inquiry.answer rulebook request with
            | .error error => .failed error
            | .ok finding => .finding finding
  | .rulebook tenant =>
      session.answerFromRulebook interlude tenant fun session rulebook =>
        .rulebook rulebook (session.service.isCurrent? tenant rulebook)
  | .version tenant =>
      session.answerFromRulebook interlude tenant fun _ rulebook =>
        .version rulebook.digest
  | .setLifetimes lifetimes =>
      let session := session.onService (·.withCache (·.setLifetimes lifetimes))
      (.lifetimes session.service.cache.lifetimes, none, session)
  | .lifetimes => (.lifetimes session.service.cache.lifetimes, none, session)
  | .dropAll =>
      let session := session.onService (·.withCache Cache.dropAll)
      (.truth session.service.cache.isEmpty, none, session)
  | .invalidate tenant =>
      let session := session.onService (·.withCache (·.invalidate tenant))
      (.truth (session.service.cache.contains tenant), none, session)
  | .contains tenant =>
      let cache := session.service.cache
      (.contents (cache.contains tenant) cache.size cache.isEmpty, none, session)
  | .tenants => (.tenants session.service.store.texts.tenants, none, session)
  | .describe => (.description session.service.cache.text, none, session)
  | .advance span =>
      (.advanced, none,
        if session.clockIsManual then session.onService (·.advance span) else session)
  | .shut reason => (.shut, none, session.onService (·.setOutage (some reason)))
  | .reopen => (.reopened, none, session.onService (·.setOutage none))
  | .hold tenant => (.held, none, { session with holds := tenant :: session.holds })
  | .unhold tenant =>
      (.unheld, none, { session with holds := session.holds.filter (· ≠ tenant) })
  | .release =>
      let (tenant?, session) := session.release
      (.released tenant?, none, session)

mutual

/-- Run one step and report on it. -/
def runStep : Step → Session → StepReport × Session
  | .mk command hasMeanwhile meanwhile, session =>
      let (answer, reports?, session) := session.perform (runSteps meanwhile) command
      (.mk answer session.statistics hasMeanwhile reports?, session)

/-- Run steps one after the other and report on each. -/
def runSteps : List Step → Session → List StepReport × Session
  | [], session => ([], session)
  | step :: rest, session =>
      let (report, session) := runStep step session
      let (reports, session) := runSteps rest session
      (report :: reports, session)

end

end Session

end LendingRules
