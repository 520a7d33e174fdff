import LendingRules.Proofs.Interleaving.Desk
import LendingRules.Proofs.Interleaving.Invalidation
import Mathlib.Data.List.Induction

namespace LendingRules

/-!
# How stale an answer can be

An entry bears the time of the reload that brought it in, and at that time the
text with its digest was the stored one, also when the reload kept an older
rulebook. So whatever lifetimes are set when a get finds the entry, what it is
served is for a text that was still stored less than the expiry age ago. How the
lifetimes were set before, and how long a refresh has waited, does not matter.
-/

/-- Only reloads of this moment bring entries into the cache. -/
theorem Service.Reloads.cached_finds
    {service after : Service}
    {reload : Reload}
    {result : Except LendingError Rulebook}
    (reloads : service.Reloads reload result after)
    {tenant : String}
    {cached : CachedRulebook}
    (present : after.cache.cached.get? tenant = some cached) :
    service.cache.cached.get? tenant = some cached ∨
      tenant = reload.tenant ∧ cached.loadedAt = service.now ∧
        ∃ text,
          service.store.texts.get? tenant = some text ∧
            reload.Finds text cached.rulebook := by
  rcases reloads.cached tenant cached present with before | ⟨rfl, found, time⟩
  · exact .inl before
  · exact .inr ⟨rfl, time, reloads.finds cached.rulebook found⟩

/-- Whether a turn may bring in a text for a tenant. -/
def Turn.Writes (tenant text : String) : Turn → Prop
  | .operate (.save other written) | .operate (.replaceText other written _) =>
      other = tenant ∧ written = text
  | _ => False

namespace Desk

variable {desk : Desk} {turn : Turn} {tenant : String}

/--
An entry after a turn was there before, or a reload that was waiting, or that of
the turn itself, found it for the text stored now.
-/
theorem cached_of_step
    {cached : CachedRulebook}
    (present : (desk.step turn).service.cache.cached.get? tenant = some cached) :
    desk.service.cache.cached.get? tenant = some cached ∨
      ∃ reload,
        (reload = desk.service.cache.observe tenant ∨ reload ∈ desk.waiting) ∧
          reload.tenant = tenant ∧ cached.loadedAt = desk.service.now ∧
            ∃ text,
              desk.service.store.texts.get? tenant = some text ∧
                reload.Finds text cached.rulebook := by
  cases turn with
  | operate operation =>
      cases operation with
      | get other =>
          simp only [step, Operation.inOneGo] at present
          rcases desk.service.rulebook_cases other with
            ⟨existing, refresh?, cache, -, -, -, sameEntries, served⟩ |
              ⟨result, after, reloading, reloads⟩
          · rw [served, sameEntries] at present
            exact .inl present
          · rw [reloading] at present
            rcases reloads.cached_finds present with before | ⟨rfl, found⟩
            · exact .inl before
            · exact .inr ⟨_, .inl rfl, rfl, found⟩
      | readText other => exact .inl present
      | save other text =>
          refine .inl ?_
          simp only [step, Operation.inOneGo, Service.saveText] at present
          split at present <;> exact present
      | replaceText other text invalidates =>
          refine .inl ?_
          simp only [step, Operation.inOneGo, Service.replaceText] at present
          split at present
          · exact present
          · split at present
            · exact present
            · cases invalidates with
              | false => exact present
              | true =>
                  simp only [if_true, Cache.get?_cached_invalidate] at present
                  split at present
                  · cases present
                  · exact present
      | invalidate other =>
          refine .inl ?_
          simp only [step, Operation.inOneGo, Service.withCache,
            Cache.get?_cached_invalidate] at present
          split at present
          · cases present
          · exact present
      | dropAll => cases present
      | setLifetimes lifetimes => exact .inl present
  | refresh place =>
      simp only [step] at present
      split at present
      · exact .inl present
      · rename_i reload waits
        rcases (desk.service.reloads reload).cached_finds present with before | ⟨rfl, found⟩
        · exact .inl before
        · exact .inr ⟨reload, .inr (List.mem_of_getElem? waits), rfl, found⟩
  | abandon place =>
      refine .inl ?_
      simp only [step] at present
      split at present
      · exact present
      · rename_i reload waits
        cases found : reload.existing? with
        | none | some existing =>
            rw [found] at present
            exact present
  | advance span => exact .inl present
  | setOutage outage? => exact .inl present

/-- A refresh that waits after a turn did so before, or a get has just looked up for it. -/
theorem waiting_of_step
    {reload : Reload}
    (waits : reload ∈ (desk.step turn).waiting) :
    reload ∈ desk.waiting ∨ reload = desk.service.cache.observe reload.tenant := by
  cases turn with
  | operate operation =>
      simp only [step, List.mem_append, Option.mem_toList] at waits
      rcases waits with before | started
      · exact .inl before
      · cases operation with
        | get other =>
            simp only [Operation.inOneGo] at started
            rcases desk.service.rulebook_cases other with
              ⟨existing, refresh?, cache, -, -, looksUp, -, served⟩ |
                ⟨result, after, reloading, -⟩
            · rw [served] at started
              obtain rfl := looksUp reload started
              exact .inr rfl
            · rw [reloading] at started
              cases started
        | _ => cases started
  | refresh place | abandon place =>
      simp only [step] at waits
      split at waits
      · exact .inl waits
      · exact .inl (List.mem_of_mem_eraseIdx waits)
  | advance | setOutage => exact .inl waits

/-- Whether a text was the stored one of a tenant at some moment of a run, at a time. -/
def HeldAt
    (desk : Desk)
    (turns : List Turn)
    (tenant text : String)
    (time : Nat) : Prop :=
  ∃ earlier, earlier <+: turns ∧ (desk.run earlier).service.now = time ∧
    (desk.run earlier).service.store.texts.get? tenant = some text

/-- Whether a rulebook was compiled from a text that was stored in the run. -/
def MadeFromHeld
    (desk : Desk)
    (turns : List Turn)
    (tenant : String)
    (rulebook : Rulebook) : Prop :=
  ∃ text time, desk.HeldAt turns tenant text time ∧ Rulebook.ofText text = .ok rulebook

/-- Whether digests tell the texts apart that were stored for a tenant in a run. -/
def DigestsTellHeldApart (desk : Desk) (turns : List Turn) (tenant : String) : Prop :=
  ∀ first firstTime second secondTime,
    desk.HeldAt turns tenant first firstTime →
      desk.HeldAt turns tenant second secondTime →
        Digest.ofText first = Digest.ofText second → first = second

section Run

variable {turns longer : List Turn} {text : String} {time : Nat} {rulebook : Rulebook}

theorem HeldAt.mono
    (longerRun : turns <+: longer)
    (held : desk.HeldAt turns tenant text time) :
    desk.HeldAt longer tenant text time := by
  obtain ⟨earlier, before, atTime, stored⟩ := held
  exact ⟨earlier, before.trans longerRun, atTime, stored⟩

/-- What is stored now is held at the time it is now. -/
theorem heldAt_now
    (stored : (desk.run turns).service.store.texts.get? tenant = some text) :
    desk.HeldAt turns tenant text (desk.run turns).service.now :=
  ⟨turns, List.prefix_rfl, rfl, stored⟩

theorem MadeFromHeld.mono
    (longerRun : turns <+: longer)
    (made : desk.MadeFromHeld turns tenant rulebook) :
    desk.MadeFromHeld longer tenant rulebook := by
  obtain ⟨source, sourceTime, held, compiled⟩ := made
  exact ⟨source, sourceTime, held.mono longerRun, compiled⟩

/-- What a reload finds now was made from a held text if what it has looked up was. -/
theorem MadeFromHeld.of_finds
    {reload : Reload}
    (stored : (desk.run turns).service.store.texts.get? tenant = some text)
    (existingMade :
      ∀ existing ∈ reload.existing?, desk.MadeFromHeld turns tenant existing.rulebook)
    (finds : reload.Finds text rulebook) :
    desk.MadeFromHeld turns tenant rulebook := by
  obtain ⟨-, compiled | ⟨existing, found, rfl⟩⟩ := finds
  · exact ⟨text, _, heldAt_now stored, compiled⟩
  · exact existingMade existing found

/-- A rulebook made from a held text is that of any held text with its digest. -/
theorem MadeFromHeld.ofText_eq
    (made : desk.MadeFromHeld turns tenant rulebook)
    (apart : desk.DigestsTellHeldApart turns tenant)
    (held : desk.HeldAt turns tenant text time)
    (same : rulebook.digest = Digest.ofText text) :
    Rulebook.ofText text = .ok rulebook := by
  obtain ⟨source, sourceTime, sourceHeld, compiled⟩ := made
  rw [Rulebook.digest_of_ofText compiled] at same
  rw [← apart _ _ _ _ sourceHeld held same]
  exact compiled

end Run

/--
Every entry was made from a text that was stored for its tenant, and a text with
its digest was the stored one when it was loaded. What waiting refreshes have
looked up was made from stored texts too.
-/
structure Dated (desk : Desk) (turns : List Turn) : Prop where
  made :
    ∀ tenant cached, (desk.run turns).service.cache.cached.get? tenant = some cached →
      desk.MadeFromHeld turns tenant cached.rulebook
  loaded :
    ∀ tenant cached, (desk.run turns).service.cache.cached.get? tenant = some cached →
      ∃ text,
        desk.HeldAt turns tenant text cached.loadedAt ∧
          cached.rulebook.digest = Digest.ofText text
  waiting :
    ∀ reload ∈ (desk.run turns).waiting, ∀ existing ∈ reload.existing?,
      desk.MadeFromHeld turns reload.tenant existing.rulebook

namespace Dated

variable {turns : List Turn}

/-- One more turn keeps entries dated. -/
theorem concat (dated : desk.Dated turns) (turn : Turn) : desk.Dated (turns ++ [turn]) := by
  have longerRun : turns <+: turns ++ [turn] := List.prefix_append turns [turn]
  -- Whatever looked up its entry, be it now or earlier, has found one that was dated then.
  have lookedUp {tenant : String} {reload : Reload}
      (source :
        reload = (desk.run turns).service.cache.observe tenant ∨
          reload ∈ (desk.run turns).waiting)
      (ofTenant : reload.tenant = tenant) :
      ∀ existing ∈ reload.existing?, desk.MadeFromHeld turns tenant existing.rulebook := by
    rcases source with rfl | waits
    · exact dated.made tenant
    · exact ofTenant ▸ dated.waiting reload waits
  constructor
  case made =>
    intro tenant cached present
    rw [run_concat] at present
    rcases cached_of_step present with
      before | ⟨reload, source, ofTenant, -, text, stored, finds⟩
    · exact (dated.made tenant cached before).mono longerRun
    · exact (MadeFromHeld.of_finds stored (lookedUp source ofTenant) finds).mono longerRun
  case loaded =>
    intro tenant cached present
    rw [run_concat] at present
    rcases cached_of_step present with
      before | ⟨reload, -, -, time, text, stored, finds⟩
    · obtain ⟨text, held, same⟩ := dated.loaded tenant cached before
      exact ⟨text, held.mono longerRun, same⟩
    · rw [time]
      exact ⟨text, (heldAt_now stored).mono longerRun, finds.1⟩
  case waiting =>
    intro reload waits existing found
    rw [run_concat] at waits
    have source := (waiting_of_step waits).symm
    exact (lookedUp source rfl existing found).mono longerRun

/-- Entries are dated in every run from the start. -/
theorem of_start
    (lifetimes : Lifetimes)
    (texts : List (String × String))
    (turns : List Turn) :
    (start lifetimes texts).Dated turns := by
  induction turns using List.reverseRecOn with
  | nil =>
      constructor
      · intro tenant cached present
        cases present
      · intro tenant cached present
        cases present
      · intro reload waits
        cases waits
  | append_singleton earlier turn inductionHypothesis => exact inductionHypothesis.concat turn

end Dated

/-- An entry that has not expired was loaded less than the expiry age ago. -/
theorem lt_loadedAt_add_of_unexpired
    {cached : CachedRulebook}
    {lifetimes : Lifetimes}
    {now : Nat}
    (unexpired : cached.freshness lifetimes now ≠ .expired) :
    now < cached.loadedAt + lifetimes.expiryAge := by
  by_cases aged : lifetimes.expiryAge ≤ cached.age now
  · exact absurd (if_pos aged) unexpired
  · have young : now - cached.loadedAt < lifetimes.expiryAge := Nat.lt_of_not_le aged
    omega

/--
The staleness window: when a get succeeds, its rulebook bears the digest of the text
stored for the tenant now, or of one that was stored at a time less than the expiry
age ago, as the lifetimes are set now; when entries expire at once, it is always the
one stored now. The rulebook was compiled from a text stored in the run, so it is
that of the very text in the window unless two stored texts share a digest.
-/
theorem rulebook_within_staleness_window
    (lifetimes : Lifetimes)
    (texts : List (String × String))
    (turns : List Turn)
    (tenant : String)
    (rulebook : Rulebook)
    (obtained :
      (((start lifetimes texts).run turns).service.rulebook tenant).1 = .ok rulebook) :
    ∃ text,
      (((start lifetimes texts).run turns).service.store.texts.get? tenant = some text ∨
        ∃ time,
          (start lifetimes texts).HeldAt turns tenant text time ∧
            ((start lifetimes texts).run turns).service.now <
              time + ((start lifetimes texts).run turns).service.cache.lifetimes.expiryAge) ∧
      (((start lifetimes texts).run turns).service.cache.lifetimes.expiry = 0 →
        ((start lifetimes texts).run turns).service.store.texts.get? tenant = some text) ∧
      rulebook.digest = Digest.ofText text ∧
      (start lifetimes texts).MadeFromHeld turns tenant rulebook ∧
      ((start lifetimes texts).DigestsTellHeldApart turns tenant →
        Rulebook.ofText text = .ok rulebook) := by
  have dated := Dated.of_start lifetimes texts turns
  rcases ((start lifetimes texts).run turns).service.rulebook_cases tenant with
    ⟨existing, refresh?, cache, found, unexpired, -, -, served⟩ |
      ⟨result, after, reloading, reloads⟩
  · rw [served] at obtained
    cases obtained
    have recent := lt_loadedAt_add_of_unexpired unexpired
    have made := dated.made tenant existing found
    obtain ⟨text, held, same⟩ := dated.loaded tenant existing found
    refine ⟨text, .inr ⟨existing.loadedAt, held, recent⟩, fun atOnce => absurd ?_ unexpired,
      same, made, fun apart => made.ofText_eq apart held same⟩
    simp [CachedRulebook.freshness, Lifetimes.expiryAge, Span.ofMillis, atOnce]
  · rw [reloading] at obtained
    cases obtained
    obtain ⟨text, stored, finds⟩ := reloads.finds rulebook rfl
    have made := MadeFromHeld.of_finds stored (dated.made tenant) finds
    exact ⟨text, .inl stored, fun _ => stored, finds.1, made,
      fun apart => made.ofText_eq apart (heldAt_now stored) finds.1⟩

/-- What is stored after a turn was stored before, or the turn has written it. -/
theorem stored_of_step
    {text : String}
    (stored : (desk.step turn).service.store.texts.get? tenant = some text) :
    desk.service.store.texts.get? tenant = some text ∨ turn.Writes tenant text := by
  -- Both operations that write do so by a save, which may be refused.
  have ofSave {other written : String} {store : TextStore}
      (success : desk.service.store.save other written = .ok store)
      (found : store.texts.get? tenant = some text) :
      desk.service.store.texts.get? tenant = some text ∨
        other = tenant ∧ written = text := by
    rw [TextStore.get?_of_save success] at found
    split at found
    · rename_i same
      cases found
      exact .inr ⟨same.symm, rfl⟩
    · exact .inl found
  cases turn with
  | operate operation =>
      cases operation with
      | get other =>
          refine .inl ?_
          simp only [step, Operation.inOneGo] at stored
          rcases desk.service.rulebook_cases other with
            ⟨existing, refresh?, cache, -, -, -, -, served⟩ | ⟨result, after, reloading, reloads⟩
          · rw [served] at stored
            exact stored
          · rw [reloading] at stored
            exact reloads.texts ▸ stored
      | save other written =>
          simp only [step, Operation.inOneGo, Service.saveText] at stored
          cases success : desk.service.store.save other written with
          | error error =>
              rw [success] at stored
              exact .inl stored
          | ok store =>
              rw [success] at stored
              exact ofSave success stored
      | replaceText other written invalidates =>
          simp only [step, Operation.inOneGo, Service.replaceText] at stored
          split at stored
          · exact .inl stored
          · split at stored
            · exact .inl stored
            · rename_i success
              exact ofSave success stored
      | readText | invalidate | dropAll | setLifetimes => exact .inl stored
  | refresh place =>
      refine .inl ?_
      simp only [step] at stored
      split at stored
      · exact stored
      · rename_i reload waits
        exact (desk.service.reloads reload).texts ▸ stored
  | abandon place =>
      refine .inl ?_
      simp only [step] at stored
      split at stored
      · exact stored
      · rename_i reload waits
        cases found : reload.existing? with
        | none | some existing =>
            rw [found] at stored
            exact stored
  | advance | setOutage => exact .inl stored

/-- A text that is stored in a run was stored at first, or a turn has written it. -/
theorem HeldAt.stored_or_written
    {turns : List Turn}
    {text : String}
    {time : Nat}
    (held : desk.HeldAt turns tenant text time) :
    desk.service.store.texts.get? tenant = some text ∨
      ∃ turn ∈ turns, turn.Writes tenant text := by
  obtain ⟨earlier, before, -, stored⟩ := held
  induction earlier using List.reverseRecOn with
  | nil => exact .inl stored
  | append_singleton shorter turn inductionHypothesis =>
      rw [run_concat] at stored
      rcases stored_of_step stored with storedBefore | writes
      · exact inductionHypothesis ((List.prefix_append _ _).trans before) storedBefore
      · refine .inr ⟨turn, before.subset ?_, writes⟩
        exact List.mem_append_right shorter (List.mem_singleton.mpr rfl)

/--
A rulebook is kept by a refresh that has waited past the expiry of its entry. Then
its text is written anew, and the time is not over for which it is served.
-/
def delayedRefresh : List Turn :=
  [.operate (.get "t"), .advance (.ofMillis 4000), .operate (.get "t"),
    .advance (.ofMillis 1500), .refresh 0, .operate (.save "t" World.replacingText),
    .advance (.ofMillis 4900)]

theorem rulebook_delayedRefresh :
    (((start {} [("t", World.replacedText)]).run delayedRefresh).service.rulebook "t").1 =
      Rulebook.ofText World.replacedText := by
  decide +kernel

/-- The old rulebook is served, since its text was stored when the refresh kept it. -/
theorem delayedRefresh_within_staleness_window :
    ∃ old : Rulebook,
      Rulebook.ofText World.replacedText = .ok old ∧
        (start {} [("t", World.replacedText)]).DigestsTellHeldApart delayedRefresh "t" ∧
          (((start {} [("t", World.replacedText)]).run delayedRefresh).service.rulebook "t").1 =
              .ok old ∧
            ∃ text,
              Rulebook.ofText text = .ok old ∧
                (((start {} [("t", World.replacedText)]).run
                    delayedRefresh).service.store.texts.get? "t" = some text ∨
                  ∃ time,
                    (start {} [("t", World.replacedText)]).HeldAt delayedRefresh "t" text time ∧
                      ((start {} [("t", World.replacedText)]).run delayedRefresh).service.now <
                        time +
                          ((start {} [("t", World.replacedText)]).run
                            delayedRefresh).service.cache.lifetimes.expiryAge) := by
  obtain ⟨old, oldCompiled⟩ :=
    Rulebook.exists_of_accepted
      (by decide +kernel : (Rulebook.ofText World.replacedText).isOk = true)
  have apart :
      (start {} [("t", World.replacedText)]).DigestsTellHeldApart delayedRefresh "t" := by
    have oldOrNew {text : String} {time : Nat}
        (held :
          (start {} [("t", World.replacedText)]).HeldAt delayedRefresh "t" text time) :
        text = World.replacedText ∨ text = World.replacingText := by
      rcases held.stored_or_written with stored | ⟨turn, member, writes⟩
      · exact .inl (Option.some.inj stored).symm
      · refine .inr ?_
        simp only [delayedRefresh, List.mem_cons, List.not_mem_nil, or_false] at member
        rcases member with rfl | rfl | rfl | rfl | rfl | rfl | rfl <;> cases writes
        symm
        assumption
    intro first firstTime second secondTime firstHeld secondHeld
    exact World.eq_of_digest_eq (oldOrNew firstHeld) (oldOrNew secondHeld)
  have obtained := rulebook_delayedRefresh.trans oldCompiled
  obtain ⟨text, recent, -, -, -, compiled⟩ :=
    rulebook_within_staleness_window {} [("t", World.replacedText)] delayedRefresh "t" old
      obtained
  exact ⟨old, oldCompiled, apart, obtained, text, compiled apart, recent⟩

end Desk

end LendingRules
