import LendingRules.Proofs.Interleaving.Invalidation
import LendingRules.Proofs.Tenancy.Errands
import Mathlib.Data.List.Induction

namespace LendingRules

/-!
# Guarded texts never break a question

As long as every text in the store was seeded as one that compiles or came in as
a replacement, whatever a reload finds in the store compiles, however long ago it
has read it. So no question is ever answered with an error in rule text. What can
be read for a tenant is then the text of its latest replacement, and a rulebook
made from that text bears the digest that was returned for the replacement.
-/

/-- Whether a text makes a rulebook. -/
def Rulebook.Compiles (text : String) : Prop :=
  ∃ rulebook, ofText text = .ok rulebook

namespace LendingError

/-- Whether an error lies in rule text, in its form or in what it says. -/
def LiesInText : LendingError → Prop
  | syntaxError _ | ruleError _ => True
  | requestError _ | sourceError _ | noRuling _ | fileError _ => False

end LendingError

namespace Reply

/-- The error with which a question about rules is answered, if it is. -/
def failure? : Reply → Option LendingError
  | rulebook (.error error) | finding (.error error) => some error
  | _ => none

end Reply

namespace Inquiry

/-- What a rulebook does not answer is what it has no ruling for. -/
theorem exists_noRuling_of_answer
    {inquiry : Inquiry}
    {rulebook : Rulebook}
    {request : Request}
    {error : LendingError}
    (failed : inquiry.answer rulebook request = .error error) :
    ∃ type, error = .noRuling type := by
  cases inquiry with
  | best type =>
      simp only [answer, Rulebook.requireRuling] at failed
      cases found : rulebook.ruling? request type with
      | none =>
          rw [found] at failed
          cases failed
          exact ⟨type, rfl⟩
      | some ruling =>
          rw [found] at failed
          cases failed
  | all type => cases failed
  | everyType =>
      simp only [answer] at failed
      cases decided : rulebook.decision request with
      | ok decision =>
          rw [decided] at failed
          cases failed
      | error type =>
          rw [decided] at failed
          cases failed
          exact ⟨type, rfl⟩

end Inquiry

namespace Question

/-- A question fails for its form, or for want of a rulebook, or for want of a ruling. -/
theorem failure_cases
    {question : Question}
    {obtained : Except LendingError Rulebook}
    {error : LendingError}
    (failed : (question.reply obtained).failure? = some error) :
    (∃ problems, question.problems? = some problems ∧ error = .requestError problems) ∨
      (question.problems? = none ∧ obtained = .error error) ∨
        (question.problems? = none ∧ ∃ type, error = .noRuling type) := by
  cases question with
  | rulebook =>
      cases obtained with
      | ok rulebook => cases failed
      | error reason =>
          cases failed
          exact .inr (.inl ⟨rfl, rfl⟩)
  | inquiry inquiry form =>
      simp only [reply, problems?] at failed ⊢
      cases checked : form.validate with
      | error problems =>
          rw [checked] at failed
          cases failed
          exact .inl ⟨problems, rfl, rfl⟩
      | ok request =>
          rw [checked] at failed
          cases obtained with
          | error reason =>
              cases failed
              exact .inr (.inl ⟨rfl, rfl⟩)
          | ok rulebook =>
              simp only [Except.bind] at failed
              cases answered : inquiry.answer rulebook request with
              | ok finding =>
                  rw [answered] at failed
                  cases failed
              | error reason =>
                  rw [answered] at failed
                  cases failed
                  exact .inr (.inr ⟨rfl, Inquiry.exists_noRuling_of_answer answered⟩)

/-- An error in rule text is replied only when the rulebook could not be had for it. -/
theorem not_liesInText_of_reply
    {question : Question}
    {obtained : Except LendingError Rulebook}
    {error : LendingError}
    (sound : ∀ reason, obtained = .error reason → ¬ reason.LiesInText)
    (failed : (question.reply obtained).failure? = some error) :
    ¬ error.LiesInText := by
  rcases failure_cases failed with ⟨problems, -, rfl⟩ | ⟨-, unobtained⟩ | ⟨-, type, rfl⟩
  · exact not_false
  · exact sound error unobtained
  · exact not_false

end Question

/-- Whether every stored text compiles. -/
def TextStore.Guarded (store : TextStore) : Prop :=
  ∀ tenant text, store.texts.get? tenant = some text → Rulebook.Compiles text

/-- Whether the text that a reload has read compiles, if it has read any. -/
def PendingReload.Guarded (pending : PendingReload) : Prop :=
  ∀ text, pending.loaded? = some (.ok text) → Rulebook.Compiles text

theorem PendingReload.not_liesInText_of_reply
    {pending : PendingReload}
    {obtained : Except LendingError Rulebook}
    {error : LendingError}
    (sound : ∀ reason, obtained = .error reason → ¬ reason.LiesInText)
    (failed : (pending.reply obtained).failure? = some error) :
    ¬ error.LiesInText := by
  unfold reply at failed
  cases asked : pending.question? with
  | none =>
      rw [asked] at failed
      cases failed
  | some question =>
      rw [asked] at failed
      exact question.not_liesInText_of_reply sound failed

/-- Texts stay guarded when one that compiles is saved. -/
theorem TextStore.Guarded.save
    {store saved : TextStore}
    {tenant text : String}
    (guarded : store.Guarded)
    (success : store.save tenant text = .ok saved)
    (compiles : Rulebook.Compiles text) :
    saved.Guarded := by
  intro other held found
  rw [get?_of_save success] at found
  by_cases same : other = tenant
  · rw [if_pos same] at found
    cases found
    exact compiles
  · rw [if_neg same] at found
    exact guarded other held found

namespace Errand.Ends

variable
  {service after : Service}
  {tenant : String}
  {reloads reloadsAfter : List PendingReload}
  {errand : Errand}
  {reply : Reply}

/-- An errand that does not save an unchecked text leaves all stored texts guarded. -/
theorem stored_guarded
    (ends : errand.Ends service tenant reloads reply after reloadsAfter)
    (checked : ∀ text, errand ≠ .save text)
    (guarded : service.store.Guarded) :
    after.store.Guarded := by
  cases ends with
  | replaced invalidate compiled success => exact guarded.save success ⟨_, compiled⟩
  | saved success => exact absurd rfl (checked _)
  | @abandoned place reload waits =>
      cases reload.existing? <;> exact guarded
  | _ => exact guarded

/-- A reload under way has read a text that compiles. -/
theorem reloads_guarded
    (ends : errand.Ends service tenant reloads reply after reloadsAfter)
    (stored : service.store.Guarded)
    (guarded : ∀ pending ∈ reloads, pending.Guarded) :
    ∀ pending ∈ reloadsAfter, pending.Guarded := by
  intro pending member
  cases ends with
  | refreshing | missed =>
      rcases List.mem_append.mp member with before | new
      · exact guarded pending before
      · cases List.mem_singleton.mp new
        exact fun text read => nomatch read
  | @loaded place waiting waits unread =>
      rcases List.mem_or_eq_of_mem_set member with before | rfl
      · exact guarded pending before
      · intro text read
        have loaded := Option.some.inj read
        exact stored _ text (TextStore.get?_of_text loaded)
  | unloaded | failed | revalidated | recompiled | abandoned =>
      exact guarded pending (List.mem_of_mem_eraseIdx member)
  | _ => exact guarded pending member

/-- No question is answered with an error in rule text. -/
theorem not_liesInText
    {error : LendingError}
    (ends : errand.Ends service tenant reloads reply after reloadsAfter)
    (guarded : ∀ pending ∈ reloads, pending.Guarded)
    (failed : reply.failure? = some error) :
    ¬ error.LiesInText := by
  cases ends with
  | refused =>
      refine Question.not_liesInText_of_reply ?_ failed
      intro reason same
      cases same
      exact not_false
  | served | refreshing =>
      exact Question.not_liesInText_of_reply (by simp) failed
  | unloaded =>
      refine PendingReload.not_liesInText_of_reply ?_ failed
      intro reason same
      cases same
      exact not_false
  | @failed place pending text reason waits read failure =>
      obtain ⟨rulebook, compiled⟩ := guarded pending (List.mem_of_getElem? waits) text read
      exact absurd (compiled.symm.trans failure) (by simp)
  | revalidated | recompiled =>
      exact PendingReload.not_liesInText_of_reply (by simp) failed
  | _ => cases failed

end Errand.Ends

/-- The text that an act has brought in for a tenant as a replacement, with the digest returned. -/
def replacement? (tenant : String) : Act × Reply → Option (String × Digest)
  | (.errand other (.replaceText text _), .replaced (.ok version)) =>
      if other = tenant then some (text, version) else none
  | _ => none

/-- The latest replacement of a tenant's text that succeeded. -/
def latestReplacement? (tenant : String) (told : List (Act × Reply)) : Option (String × Digest) :=
  (told.filterMap (replacement? tenant)).getLast?

/-- A further act is the latest replacement if it is one. -/
theorem latestReplacement?_concat
    (tenant : String)
    (told : List (Act × Reply))
    (last : Act × Reply) :
    latestReplacement? tenant (told ++ [last]) =
      (replacement? tenant last).or (latestReplacement? tenant told) := by
  unfold latestReplacement?
  cases isReplacement : replacement? tenant last with
  | none => simp [isReplacement]
  | some replacement => simp [isReplacement]

/--
An errand changes the stored text of no tenant but as a replacement for that
tenant, unless it saves a text unchecked. The digest returned is that of the text.
-/
theorem Errand.Ends.stored_text
    {service after : Service}
    {tenant : String}
    {reloads reloadsAfter : List PendingReload}
    {errand : Errand}
    {reply : Reply}
    (ends : errand.Ends service tenant reloads reply after reloadsAfter)
    (checked : ∀ text, errand ≠ .save text)
    (other : String) :
    (replacement? other (.errand tenant errand, reply) = none ∧
        after.store.texts.get? other = service.store.texts.get? other) ∨
      ∃ text,
        replacement? other (.errand tenant errand, reply) =
            some (text, Digest.ofText text) ∧
          after.store.texts.get? other = some text := by
  cases ends with
  | @replaced text rulebook store invalidate compiled success =>
      have held := TextStore.get?_of_save success other
      by_cases same : tenant = other
      · rw [if_pos same.symm] at held
        refine .inr ⟨text, ?_, held⟩
        rw [replacement?, if_pos same, Rulebook.digest_of_ofText compiled]
      · rw [if_neg (Ne.symm same)] at held
        exact .inl ⟨if_neg same, held⟩
  | saved success => exact absurd rfl (checked _)
  | @abandoned place reload waits =>
      refine .inl ⟨rfl, ?_⟩
      cases reload.existing? <;> rfl
  | _ => exact .inl ⟨rfl, rfl⟩

namespace Office

/-- Whether all stored texts compile, and whatever reloads under way have read. -/
structure Guarded (office : Office) : Prop where
  stored : office.service.store.Guarded
  reloads : ∀ tenant, ∀ pending ∈ office.reloads tenant, pending.Guarded

/-- An act that does not save an unchecked text keeps an office guarded. -/
theorem Guarded.act
    {office : Office}
    {act : Act}
    (guarded : office.Guarded)
    (checked : ∀ tenant text, act ≠ .errand tenant (.save text)) :
    (office.act act).2.Guarded := by
  cases act with
  | errand tenant errand =>
      have ends := office.ends_act tenant errand
      have notSave : ∀ text, errand ≠ .save text := by
        rintro text rfl
        exact checked tenant text rfl
      refine ⟨ends.stored_guarded notSave guarded.stored, ?_⟩
      intro other
      by_cases same : other = tenant
      · subst same
        exact ends.reloads_guarded guarded.stored (guarded.reloads other)
      · rw [reloads_act_other same]
        exact guarded.reloads other
  | setLifetimes | dropAll | advance | setOutage =>
      exact ⟨guarded.stored, guarded.reloads⟩

/-- A guarded office answers no question with an error in rule text. -/
theorem Guarded.not_liesInText
    {office : Office}
    {act : Act}
    {error : LendingError}
    (guarded : office.Guarded)
    (failed : (office.act act).1.failure? = some error) :
    ¬ error.LiesInText := by
  cases act with
  | errand tenant errand =>
      exact (office.ends_act tenant errand).not_liesInText (guarded.reloads tenant) failed
  | setLifetimes | dropAll | advance | setOutage => cases failed

/-- An office stays guarded as long as no text is saved unchecked. -/
theorem Guarded.run
    {office : Office}
    {acts : List Act}
    (guarded : office.Guarded)
    (checked : ∀ tenant text, .errand tenant (.save text) ∉ acts) :
    (office.run acts).Guarded := by
  induction acts generalizing office with
  | nil => exact guarded
  | cons act rest inductionHypothesis =>
      refine inductionHypothesis (guarded.act ?_) ?_
      · rintro tenant text rfl
        exact checked tenant text List.mem_cons_self
      · exact fun tenant text member => checked tenant text (List.mem_cons_of_mem act member)

/--
What is stored for a tenant is the text of its latest replacement, or else what
was stored at first, and that replacement was returned the digest of the text.
-/
theorem stored_eq_latestReplacement
    {acts : List Act}
    (office : Office)
    (checked : ∀ tenant text, .errand tenant (.save text) ∉ acts)
    (tenant : String) :
    (office.run acts).service.store.texts.get? tenant =
        ((latestReplacement? tenant (office.told acts)).map Prod.fst).or
          (office.service.store.texts.get? tenant) ∧
      ∀ text version,
        latestReplacement? tenant (office.told acts) = some (text, version) →
          version = Digest.ofText text := by
  induction acts using List.reverseRecOn with
  | nil => exact ⟨rfl, by simp [told, latestReplacement?]⟩
  | append_singleton earlier act inductionHypothesis =>
      obtain ⟨stored, digest⟩ := inductionHypothesis fun other text member =>
        checked other text (List.mem_append_left _ member)
      rw [run_concat, told_concat, latestReplacement?_concat]
      cases act with
      | errand other errand =>
          have ends := (office.run earlier).ends_act other errand
          have notSave : ∀ text, errand ≠ .save text := by
            rintro text rfl
            exact checked other text (by simp)
          rcases ends.stored_text notSave tenant with ⟨none, same⟩ | ⟨text, replaced, held⟩
          · rw [none, Option.none_or]
            exact ⟨same.trans stored, digest⟩
          · rw [replaced, Option.some_or]
            refine ⟨held, ?_⟩
            intro latest version same
            cases same
            rfl
      | setLifetimes | dropAll | advance | setOutage =>
          exact ⟨stored, digest⟩

/-- While the store is up, the text that is held is read. -/
theorem readText_of_up
    {office : Office}
    (up : office.service.store.outage? = none)
    (tenant : String) :
    (office.act (.errand tenant .readText)).1 =
      .text ((office.service.store.texts.get? tenant).elim
        (.error (.sourceError (.notFound tenant))) .ok) := by
  simp only [act, Errand.run, Service.load, TextStore.load, TextStore.text, up]
  cases office.service.store.texts.get? tenant <;> rfl

/--
Guarded texts never break a question. In every run from texts that compile, in
which texts come in as replacements only, no question is answered with an error
in rule text. While the store is up, what is read for a tenant is the text of its
latest replacement, or else the one it was seeded with. A rulebook that is replied
bears the digest returned for that replacement if it was made from that text.
-/
theorem guarded_texts_never_break_questions
    (lifetimes : Lifetimes)
    (texts : List (String × String))
    (acts : List Act)
    (seeded :
      ∀ tenant text,
        (TenantMap.ofPairs texts).get? tenant = some text → Rulebook.Compiles text)
    (checked : ∀ tenant text, .errand tenant (.save text) ∉ acts) :
    (∀ act reply error,
      (act, reply) ∈ (start lifetimes texts).told acts →
        reply.failure? = some error → ¬ error.LiesInText) ∧
      (∀ tenant,
        ((start lifetimes texts).run acts).service.store.outage? = none →
          (((start lifetimes texts).run acts).act (.errand tenant .readText)).1 =
            .text
              ((((latestReplacement? tenant ((start lifetimes texts).told acts)).map Prod.fst).or
                ((TenantMap.ofPairs texts).get? tenant)).elim
                  (.error (.sourceError (.notFound tenant))) .ok)) ∧
        ∀ tenant text version errand rulebook,
          latestReplacement? tenant ((start lifetimes texts).told acts) =
              some (text, version) →
            (((start lifetimes texts).run acts).act (.errand tenant errand)).1 =
                .rulebook (.ok rulebook) →
              Rulebook.ofText text = .ok rulebook → rulebook.digest = version := by
  have initially : (start lifetimes texts).Guarded := by
    refine ⟨seeded, ?_⟩
    intro tenant pending member
    cases member
  refine ⟨?_, ?_, ?_⟩
  · intro act reply error told failed
    obtain ⟨earlier, before, rfl⟩ := exists_prefix_of_told told
    have checkedEarlier : ∀ tenant text, .errand tenant (.save text) ∉ earlier :=
      fun tenant text member =>
        checked tenant text (before.subset (List.mem_append_left _ member))
    exact (initially.run checkedEarlier).not_liesInText failed
  · intro tenant up
    obtain ⟨stored, -⟩ := stored_eq_latestReplacement (start lifetimes texts) checked tenant
    rw [readText_of_up up, stored]
    rfl
  · intro tenant text version errand rulebook latest replied compiled
    obtain ⟨-, digest⟩ := stored_eq_latestReplacement (start lifetimes texts) checked tenant
    rw [digest text version latest]
    exact Rulebook.digest_of_ofText compiled

/--
While a reload is under way that has read the old text, one replacement is rejected,
one is refused by the store, and one succeeds. Then the reload is completed, and
the rulebook that it brings in is dropped.
-/
def troubledReplacement : List Act :=
  [.errand "t" (.ask .rulebook), .errand "t" (.proceed 0),
    .errand "t" (.replaceText "priority" true), .setOutage (some "moving"),
    .errand "t" (.replaceText World.replacingText true), .setOutage none,
    .errand "t" (.replaceText World.replacingText false), .errand "t" (.proceed 0), .dropAll,
    .errand "t" (.ask .rulebook), .errand "t" (.proceed 0)]

/-- After the troubles the new text is read, and its rulebook bears the digest returned. -/
theorem troubledReplacement_answers_replacing :
    ∃ version rulebook,
      (∀ tenant text,
        (TenantMap.ofPairs [("t", World.replacedText)]).get? tenant = some text →
          Rulebook.Compiles text) ∧
        (∀ tenant text, .errand tenant (.save text) ∉ troubledReplacement) ∧
        latestReplacement? "t"
            ((start {} [("t", World.replacedText)]).told troubledReplacement) =
          some (World.replacingText, version) ∧
        ((start {} [("t", World.replacedText)]).run
          troubledReplacement).service.store.outage? = none ∧
        (((start {} [("t", World.replacedText)]).run troubledReplacement).act
            (.errand "t" .readText)).1 = .text (.ok World.replacingText) ∧
        (((start {} [("t", World.replacedText)]).run troubledReplacement).act
            (.errand "t" (.proceed 0))).1 = .rulebook (.ok rulebook) ∧
        Rulebook.ofText World.replacingText = .ok rulebook ∧ rulebook.digest = version := by
  have seeded :
      ∀ tenant text,
        (TenantMap.ofPairs [("t", World.replacedText)]).get? tenant = some text →
          Rulebook.Compiles text := by
    intro tenant text found
    by_cases same : tenant = "t"
    · subst same
      cases found
      exact Rulebook.exists_of_accepted (by decide +kernel)
    · simp [TenantMap.ofPairs, TenantMap.get?_insert, same] at found
  have checked : ∀ tenant text, .errand tenant (.save text) ∉ troubledReplacement := by
    simp [troubledReplacement]
  obtain ⟨rulebook, compiled⟩ :=
    Rulebook.exists_of_accepted
      (by decide +kernel : (Rulebook.ofText World.replacingText).isOk = true)
  have latest :
      latestReplacement? "t"
          ((start {} [("t", World.replacedText)]).told troubledReplacement) =
        some (World.replacingText, Digest.ofText World.replacingText) := by
    decide +kernel
  have up :
      ((start {} [("t", World.replacedText)]).run
        troubledReplacement).service.store.outage? = none := by
    decide +kernel
  have replied :
      (((start {} [("t", World.replacedText)]).run troubledReplacement).act
          (.errand "t" (.proceed 0))).1 =
        .rulebook (Rulebook.ofText World.replacingText) := by
    decide +kernel
  rw [compiled] at replied
  obtain ⟨-, reads, versions⟩ :=
    guarded_texts_never_break_questions {} [("t", World.replacedText)] troubledReplacement
      seeded checked
  have read := reads "t" up
  rw [latest] at read
  exact ⟨_, rulebook, seeded, checked, latest, up, read, replied, compiled,
    versions "t" _ _ _ rulebook latest replied compiled⟩

end Office

end LendingRules
