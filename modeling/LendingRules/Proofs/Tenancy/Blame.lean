import LendingRules.Proofs.Tenancy.GuardedTexts

namespace LendingRules

/-!
# Who is blamed for an error

An error counts as the caller's when it lies in a request or in rule text. Of texts
that a caller hands in this is right. But a reload reports what is wrong with a stored
text by the same errors, and so a valid question is blamed whenever the text that is
read for it does not compile, whoever has stored it. Nothing else that fails is blamed
on a valid question, neither the store nor the want of a ruling.
-/

namespace LendingError

/-- The caller is blamed for requests and for rule text. -/
theorem isCallerError_iff {error : LendingError} :
    error.isCallerError = true ↔
      (∃ problems, error = .requestError problems) ∨ error.LiesInText := by
  cases error <;> simp [isCallerError, LiesInText]

end LendingError

/-- Whatever is wrong with a text lies in it. -/
theorem Rulebook.liesInText_of_ofText
    {text : String}
    {error : LendingError}
    (refused : Rulebook.ofText text = .error error) :
    error.LiesInText := by
  unfold Rulebook.ofText at refused
  cases read : Document.ofText text with
  | error reason =>
      rw [read] at refused
      cases refused
      exact trivial
  | ok document =>
      rw [read] at refused
      simp only at refused
      cases made : document.rulebook (.ofText text) with
      | error reason =>
          rw [made] at refused
          cases refused
          exact trivial
      | ok rulebook =>
          rw [made] at refused
          cases refused

/--
A reload rejects a text that does not compile, unless it is the text of the rulebook
at hand, which is not compiled again.
-/
structure Reload.Rejects (reload : Reload) (text : String) (error : LendingError) : Prop where
  refused : Rulebook.ofText text = .error error
  changed : ∀ existing, reload.existing? = some existing →
    existing.rulebook.digest ≠ Digest.ofText text

/-- The text of a tenant finds no rulebook exactly when the reload rejects it. -/
theorem Cache.resolve_eq_error_iff
    {cache : Cache}
    {reload : Reload}
    {text : String}
    {error : LendingError} :
    (cache.resolve reload text).1 = .error error ↔ reload.Rejects text error := by
  unfold resolve
  cases kept : reload.existing?.filter fun existing =>
      existing.rulebook.digest = Digest.ofText text with
  | some existing =>
      obtain ⟨found, same⟩ := Option.filter_eq_some_iff.mp kept
      refine iff_of_false (by simp) fun rejects => ?_
      exact rejects.changed existing found (of_decide_eq_true same)
  | none =>
      have changed : ∀ existing, reload.existing? = some existing →
          existing.rulebook.digest ≠ Digest.ofText text := by
        intro existing found
        simpa using Option.filter_eq_none_iff.mp kept existing found
      cases compiled : Rulebook.ofText text with
      | ok rulebook =>
          refine iff_of_false (by simp) fun rejects => ?_
          simpa [compiled] using rejects.refused
      | error reason =>
          simp only [Except.error.injEq]
          constructor
          · rintro rfl
            exact ⟨compiled, changed⟩
          · intro rejects
            exact Except.error.inj (compiled.symm.trans rejects.refused)

/-- An error for which a reload rejects a text is held against the caller. -/
theorem Reload.Rejects.isCallerError
    {reload : Reload}
    {text : String}
    {error : LendingError}
    (rejects : reload.Rejects text error) :
    error.isCallerError = true :=
  LendingError.isCallerError_iff.mpr (.inr (Rulebook.liesInText_of_ofText rejects.refused))

/--
The caller of a question is blamed for an error when the form is wrong, or when the
rulebook could not be had for an error that is held against callers.
-/
theorem Question.isCallerError_iff_of_reply
    {question : Question}
    {obtained : Except LendingError Rulebook}
    {error : LendingError}
    (failed : (question.reply obtained).failure? = some error) :
    error.isCallerError = true ↔
      (∃ problems, question.problems? = some problems) ∨
        (obtained = .error error ∧ error.isCallerError = true) := by
  rcases failure_cases failed with
    ⟨problems, invalid, rfl⟩ | ⟨valid, unobtained⟩ | ⟨valid, type, rfl⟩
  · exact iff_of_true rfl (.inl ⟨problems, invalid⟩)
  · simp [valid, unobtained]
  · simp [valid, LendingError.isCallerError]

namespace Service

variable {service : Service} {tenant : String} {reload : Reload} {error : LendingError}

/-- A reload fails when its text could not be read, or when it rejects the text. -/
theorem complete_eq_error_iff {loaded : Except SourceError String} :
    (service.complete reload loaded).1 = .error error ↔
      (∃ reason, loaded = .error reason ∧ error = .sourceError reason) ∨
        ∃ text, loaded = .ok text ∧ reload.Rejects text error := by
  cases loaded with
  | error reason => simp [complete, eq_comm]
  | ok text =>
      have completed :
          (service.complete reload (.ok text)).1 = .error error ↔
            (service.cache.resolve reload text).1 = .error error := by
        simp only [complete, Cache.complete]
        rcases service.cache.resolve reload text with ⟨_ | rulebook, counted⟩ <;> simp
      rw [completed, Cache.resolve_eq_error_iff]
      simp

/-- The caller is blamed for a reload that fails exactly when it rejects the text it has read. -/
theorem complete_blames_iff {loaded : Except SourceError String} :
    (service.complete reload loaded).1 = .error error ∧ error.isCallerError = true ↔
      ∃ text, loaded = .ok text ∧ reload.Rejects text error := by
  rw [complete_eq_error_iff]
  constructor
  · rintro ⟨⟨reason, -, rfl⟩ | rejected, blamed⟩
    · cases blamed
    · exact rejected
  · rintro ⟨text, read, rejects⟩
    exact ⟨.inr ⟨text, read, rejects⟩, rejects.isCallerError⟩

/-- The same is so for a get, which reads the text that is stored. -/
theorem rulebook_blames_iff :
    (service.rulebook tenant).1 = .error error ∧ error.isCallerError = true ↔
      ∃ reload text, (service.lookup tenant).1 = .reloading reload ∧
        service.store.text tenant = .ok text ∧ reload.Rejects text error := by
  simp only [rulebook, access]
  rcases looked : service.lookup tenant with ⟨found, after⟩
  have sameStore : after.store = service.store :=
    (congrArg (fun outcome => outcome.2.store) looked).symm
  cases found with
  | served rulebook => simp
  | refreshing rulebook reload => simp
  | reloading reload =>
      simp only [load, TextStore.load, complete_blames_iff, sameStore]
      simp

/--
Whoever is replied to by the service is blamed when the form is wrong, or when the text
that has to be read for the question is rejected.
-/
theorem isCallerError_iff_of_respond
    {question : Question}
    (failed : (service.respond tenant question).1.failure? = some error) :
    error.isCallerError = true ↔
      (∃ problems, question.problems? = some problems) ∨
        ∃ reload text, (service.lookup tenant).1 = .reloading reload ∧
          service.store.text tenant = .ok text ∧ reload.Rejects text error := by
  cases checked : question.problems? with
  | some problems =>
      rw [respond_of_invalid checked] at failed
      have blamed := (Question.isCallerError_iff_of_reply failed).mpr (.inl ⟨problems, checked⟩)
      exact iff_of_true blamed (.inl ⟨problems, rfl⟩)
  | none =>
      have replied :
          (question.reply (service.rulebook tenant).1).failure? = some error := by
        rwa [respond_of_valid checked] at failed
      rw [Question.isCallerError_iff_of_reply replied, rulebook_blames_iff, checked]

/-- Whoever inquires of the service is blamed in the same cases. -/
theorem isCallerError_iff_of_inquire
    {inquiry : Inquiry}
    {form : RequestForm}
    (failed : (service.inquire tenant inquiry form).1 = .error error) :
    error.isCallerError = true ↔
      (∃ problems, form.validate = .error problems) ∨
        ∃ reload text, (service.lookup tenant).1 = .reloading reload ∧
          service.store.text tenant = .ok text ∧ reload.Rejects text error := by
  have replied : (service.respond tenant (.inquiry inquiry form)).1.failure? = some error := by
    simp only [respond, failed, Reply.failure?]
  have wrongForm :
      (∃ problems, (Question.inquiry inquiry form).problems? = some problems) ↔
        ∃ problems, form.validate = .error problems := by
    rw [Question.problems?]
    cases form.validate <;> simp
  rw [isCallerError_iff_of_respond replied, wrongForm]

end Service

/-- The question that an errand may reply to: one that is asked, or one that waits for a reload. -/
def Errand.question? (reloads : List PendingReload) : Errand → Option Question
  | ask question => some question
  | proceed place => reloads[place]?.bind PendingReload.question?
  | _ => none

/-- Whoever is replied to at once is blamed for a wrong form only. -/
theorem Errand.Ends.isCallerError_iff_of_ask
    {service after : Service}
    {tenant : String}
    {reloads reloadsAfter : List PendingReload}
    {question : Question}
    {reply : Reply}
    {error : LendingError}
    (ends : (Errand.ask question).Ends service tenant reloads reply after reloadsAfter)
    (failed : reply.failure? = some error) :
    error.isCallerError = true ↔ ∃ problems, question.problems? = some problems := by
  cases ends with
  | refused invalid =>
      refine (Question.isCallerError_iff_of_reply failed).trans ?_
      simp [invalid]
  | served | refreshing =>
      refine (Question.isCallerError_iff_of_reply failed).trans ?_
      simp
  | missed => cases failed

namespace Office

variable {office : Office} {tenant : String} {question : Question} {error : LendingError}

/-- Whoever had to wait is blamed for a wrong form, or when the reload rejects its text. -/
theorem isCallerError_iff_of_proceed
    {place : Nat}
    {pending : PendingReload}
    (waits : (office.reloads tenant)[place]? = some pending)
    (asked : pending.question? = some question)
    (failed : (office.act (.errand tenant (.proceed place))).1.failure? = some error) :
    error.isCallerError = true ↔
      (∃ problems, question.problems? = some problems) ∨
        ∃ text, pending.loaded? = some (.ok text) ∧ pending.reload.Rejects text error := by
  simp only [act, Errand.run, waits] at failed
  cases read : pending.loaded? with
  | none =>
      rw [read] at failed
      cases failed
  | some loaded =>
      simp only [read, PendingReload.reply, asked, Option.elim_some] at failed
      rw [Question.isCallerError_iff_of_reply failed, Service.complete_blames_iff]
      simp

/--
Whoever has a question replied to is blamed when the form is wrong, or when a reload was
waited for that rejects the text it has read.
-/
theorem isCallerError_iff_of_failure
    {errand : Errand}
    (asked : errand.question? (office.reloads tenant) = some question)
    (failed : (office.act (.errand tenant errand)).1.failure? = some error) :
    error.isCallerError = true ↔
      (∃ problems, question.problems? = some problems) ∨
        ∃ place pending text, errand = .proceed place ∧
          (office.reloads tenant)[place]? = some pending ∧
            pending.loaded? = some (.ok text) ∧ pending.reload.Rejects text error := by
  cases errand with
  | ask asking =>
      cases asked
      have ends := office.ends_act tenant (.ask question)
      simp [ends.isCallerError_iff_of_ask failed]
  | proceed place =>
      obtain ⟨pending, waits, asking⟩ := Option.bind_eq_some_iff.mp asked
      rw [isCallerError_iff_of_proceed waits asking failed]
      simp [waits]
  | _ => cases asked

/-- Where no text is stored that does not compile, callers are blamed for wrong forms only. -/
theorem Guarded.isCallerError_iff
    {errand : Errand}
    (guarded : office.Guarded)
    (asked : errand.question? (office.reloads tenant) = some question)
    (failed : (office.act (.errand tenant errand)).1.failure? = some error) :
    error.isCallerError = true ↔ ∃ problems, question.problems? = some problems := by
  rw [isCallerError_iff_of_failure asked failed, or_iff_left]
  rintro ⟨place, pending, text, -, waits, read, rejects⟩
  obtain ⟨rulebook, compiled⟩ :=
    guarded.reloads tenant pending (List.mem_of_getElem? waits) text read
  exact absurd (compiled.symm.trans rejects.refused) (by simp)

/--
In whatever state an office is, the caller of an inquiry is blamed for its error exactly
if the form is wrong, or if the text that has to be read for it is rejected, whoever has
stored it. So it is for an inquiry that is run from its lookup to its answer, and so it
is for every question when other things are done in between.
-/
theorem blamed_for_form_or_stored_text
    (office : Office)
    (tenant : String)
    (error : LendingError) :
    (∀ inquiry form,
      (office.service.inquire tenant inquiry form).1 = .error error →
        (error.isCallerError = true ↔
          (∃ problems, form.validate = .error problems) ∨
            ∃ reload text, (office.service.lookup tenant).1 = .reloading reload ∧
              office.service.store.text tenant = .ok text ∧ reload.Rejects text error)) ∧
      ∀ errand question,
        errand.question? (office.reloads tenant) = some question →
          (office.act (.errand tenant errand)).1.failure? = some error →
            (error.isCallerError = true ↔
              (∃ problems, question.problems? = some problems) ∨
                ∃ place pending text, errand = .proceed place ∧
                  (office.reloads tenant)[place]? = some pending ∧
                    pending.loaded? = some (.ok text) ∧
                      pending.reload.Rejects text error) := by
  constructor
  · intro inquiry form failed
    exact Service.isCallerError_iff_of_inquire failed
  · intro errand question asked failed
    exact isCallerError_iff_of_failure asked failed

/-- A text that names no fallback, as it may be stored unchecked. -/
def unfinishedText : String :=
  "priority: last-line\nm book: l x\n"

/-- What is wrong with the text. -/
def missingFallback : LendingError :=
  .ruleError ⟨3, 1, .fallbackMissing⟩

/-- A form with nothing wrong with it. -/
def filledForm : RequestForm :=
  .ofPairs
    [("item_type_id", "96d4bdf1-5fc2-40ef-9ace-6d7e3e48ec4d"),
      ("loan_type_id", "2e6f51b9-d00a-4f1d-9960-49b1977acfca"),
      ("patron_type_id", "0122feae-bd0e-4405-88de-525d93ba7cfd"),
      ("location_id", "6a475259-8a97-4992-a415-76440f5f7c23")]

/-- The question for the best loan policy for the request on the form. -/
def filledQuestion : Question :=
  .inquiry (.best .loan) filledForm

/-- An office in whose store the unfinished text was put. -/
def unfinishedOffice : Office :=
  start {} [("t", unfinishedText)]

/-- The office when it has been asked the question and has read the text for it. -/
def readingOffice : Office :=
  unfinishedOffice.run [.errand "t" (.ask filledQuestion), .errand "t" (.proceed 0)]

theorem validate_filledForm : filledForm.validate.isOk = true := by
  decide +kernel

theorem inquire_unfinishedText :
    (unfinishedOffice.service.inquire "t" (.best .loan) filledForm).1 =
      .error missingFallback := by
  decide +kernel

/-- The caller is blamed for the unfinished text, whether the inquiry is run at once or not. -/
theorem unfinishedText_blames_caller :
    filledForm.validate.isOk = true ∧
      (unfinishedOffice.service.inquire "t" (.best .loan) filledForm).1 =
        .error missingFallback ∧
      (missingFallback.isCallerError = true ↔
        (∃ problems, filledForm.validate = .error problems) ∨
          ∃ reload text,
            (unfinishedOffice.service.lookup "t").1 = .reloading reload ∧
              unfinishedOffice.service.store.text "t" = .ok text ∧
                reload.Rejects text missingFallback) ∧
      (Errand.proceed 0).question? (readingOffice.reloads "t") = some filledQuestion ∧
      (readingOffice.act (.errand "t" (.proceed 0))).1 =
        .finding (.error missingFallback) ∧
      (missingFallback.isCallerError = true ↔
        (∃ problems, filledQuestion.problems? = some problems) ∨
          ∃ place pending text, Errand.proceed 0 = .proceed place ∧
            (readingOffice.reloads "t")[place]? = some pending ∧
              pending.loaded? = some (.ok text) ∧
                pending.reload.Rejects text missingFallback) := by
  have waits :
      (Errand.proceed 0).question? (readingOffice.reloads "t") = some filledQuestion := by
    decide +kernel
  have replied :
      (readingOffice.act (.errand "t" (.proceed 0))).1 = .finding (.error missingFallback) := by
    decide +kernel
  have failed :
      (readingOffice.act (.errand "t" (.proceed 0))).1.failure? = some missingFallback := by
    rw [replied]
    rfl
  obtain ⟨atOnce, -⟩ := blamed_for_form_or_stored_text unfinishedOffice "t" missingFallback
  obtain ⟨-, inBetween⟩ := blamed_for_form_or_stored_text readingOffice "t" missingFallback
  exact ⟨validate_filledForm, inquire_unfinishedText, atOnce _ _ inquire_unfinishedText,
    waits, replied, inBetween _ _ waits failed⟩

/-- So it is not only for wrong forms that callers of inquiries are blamed. -/
theorem not_blamed_for_form_only :
    ¬ ∀ service tenant inquiry form error,
      (Service.inquire service tenant inquiry form).1 = .error error →
        (error.isCallerError = true ↔ ∃ problems, form.validate = .error problems) := by
  intro formOnly
  obtain ⟨problems, wrong⟩ := (formOnly _ _ _ _ _ inquire_unfinishedText).mp rfl
  have filled := validate_filledForm
  rw [wrong] at filled
  cases filled

end Office

end LendingRules
