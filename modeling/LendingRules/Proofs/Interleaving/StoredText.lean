import LendingRules.Proofs.Interleaving.History

namespace LendingRules

/-!
# What reads find in the store

Between two writes of a tenant's text every read of that text finds what the
first of them wrote, whatever else happens meanwhile.
-/

namespace TextStore

/-- A text that can be read is the one that is held. -/
theorem get?_of_text
    {store : TextStore}
    {tenant text : String}
    (read : store.text tenant = .ok text) :
    store.texts.get? tenant = some text := by
  unfold TextStore.text at read
  split at read
  · cases read
  · split at read
    · rename_i held found
      cases read
      exact found
    · cases read

/-- A text that is saved replaces that of its tenant. -/
theorem get?_of_save
    {store saved : TextStore}
    {tenant text : String}
    (success : store.save tenant text = .ok saved)
    (other : String) :
    saved.texts.get? other =
      if other = tenant then some text else store.texts.get? other := by
  unfold save at success
  split at success
  · cases success
  · cases success
    exact store.texts.get?_insert tenant other text

end TextStore

namespace Task.Leads

variable {service : Service} {task : Task} {effect : Effect} {tenant : String}

/-- Without a write the text of a tenant stays. -/
theorem text_after (leads : task.Leads service effect) (tenant : String) :
    (∃ text, effect.event? = some (.wrote tenant text)) ∨
      effect.service.store.texts.get? tenant = service.store.texts.get? tenant := by
  cases leads with
  | @saved other text store success =>
      by_cases same : tenant = other
      · subst same
        exact .inl ⟨text, rfl⟩
      · have held := TextStore.get?_of_save success tenant
        rw [if_neg same] at held
        exact .inr held
  | @replacementSaved other text store rulebook invalidate compiled success =>
      by_cases same : tenant = other
      · subst same
        exact .inl ⟨text, rfl⟩
      · have held := TextStore.get?_of_save success tenant
        rw [if_neg same] at held
        exact .inr held
  | replaced other text invalidate =>
      refine .inr ?_
      cases invalidate <;> rfl
  | _ => exact .inr rfl

/-- What was written is held. -/
theorem of_wrote
    {text : String}
    (leads : task.Leads service effect)
    (happened : effect.event? = some (.wrote tenant text)) :
    effect.service.store.texts.get? tenant = some text := by
  cases leads <;> cases happened
  case saved store success =>
    rw [TextStore.get?_of_save success, if_pos rfl]
  case replacementSaved store rulebook invalidate compiled success =>
    rw [TextStore.get?_of_save success, if_pos rfl]

/-- What was read was held. -/
theorem of_loaded
    {text : String}
    (leads : task.Leads service effect)
    (happened : effect.event? = some (.loaded tenant (.ok text))) :
    service.store.texts.get? tenant = some text := by
  cases leads with
  | readText other =>
      simp only [Option.some.injEq, Event.loaded.injEq] at happened
      obtain ⟨rfl, read⟩ := happened
      exact TextStore.get?_of_text read
  | loaded role success =>
      cases happened
      exact TextStore.get?_of_text success
  | _ => cases happened

end Task.Leads

namespace World

/--
Since some point of the history the text of a tenant was either written again,
or it is still held and all that was read.
-/
def HoldsText
    (tenant text : String)
    (earlier : List Occurrence)
    (world : World) : Prop :=
  ∃ since,
    world.history = earlier ++ since ∧
      ((∃ writer written, ⟨writer, .wrote tenant written⟩ ∈ since) ∨
        (world.service.store.texts.get? tenant = some text ∧
          ∀ reader read, ⟨reader, .loaded tenant (.ok read)⟩ ∈ since → read = text))

theorem HoldsText.of_leads
    {tenant text : String}
    {earlier : List Occurrence}
    {world next : World}
    (leads : world.Leads next)
    (holds : world.HoldsText tenant text earlier) :
    next.HoldsText tenant text earlier := by
  obtain ⟨since, shape, rewritten | ⟨held, reads⟩⟩ := holds
  · obtain ⟨happened?, grown⟩ := leads.history
    obtain ⟨writer, written, member⟩ := rewritten
    refine ⟨since ++ happened?.toList, ?_, .inl ⟨writer, written, ?_⟩⟩
    · rw [grown, shape, List.append_assoc]
    · exact List.mem_append_left _ member
  · cases leads with
    | @performed number task effect underWay leads =>
        refine ⟨since ++ effect.event?.toList.map (⟨number, ·⟩), ?_, ?_⟩
        · rw [settle, shape, List.append_assoc]
        · rcases leads.text_after tenant with ⟨written, happened⟩ | same
          · refine .inl ⟨number, written, List.mem_append_right since ?_⟩
            rw [happened]
            exact List.mem_singleton.mpr rfl
          · refine .inr ⟨same.trans held, ?_⟩
            intro reader read member
            rcases List.mem_append.mp member with before | now
            · exact reads reader read before
            · obtain ⟨event, happened, told⟩ := List.mem_map.mp now
              cases told
              have found := leads.of_loaded (Option.mem_toList.mp happened)
              exact Option.some.inj (found.symm.trans held)
    | @abandoned number reload underWay =>
        refine ⟨since, shape, .inr ⟨?_, reads⟩⟩
        rw [← held]
        unfold giveUp
        cases reload.existing? <;> rfl
    | _ => exact ⟨since, shape, .inr ⟨held, reads⟩⟩

/-- Right after it was written a text is held. -/
theorem holdsText_of_wrote
    {tenant text : String}
    {writer : Nat}
    {world next : World}
    (leads : world.Leads next)
    (grown : next.history = world.history ++ [⟨writer, .wrote tenant text⟩]) :
    next.HoldsText tenant text next.history := by
  obtain ⟨task, effect, -, taskLeads, happened, rfl⟩ := leads.of_history grown
  refine ⟨[], (List.append_nil _).symm, .inr ⟨taskLeads.of_wrote happened, ?_⟩⟩
  intro reader read member
  cases member

/-- As long as a text is not written again, it is what is read. -/
theorem eq_of_loaded
    {world next : World}
    {moves : List Move}
    {tenant text read : String}
    {writer reader : Nat}
    {between : List Occurrence}
    (leads : world.Leads next)
    (wrote : next.history = world.history ++ [⟨writer, .wrote tenant text⟩])
    (ran : (next.run moves).history = next.history ++ between)
    (unwritten : ∀ other written, ⟨other, .wrote tenant written⟩ ∉ between)
    (loaded : ⟨reader, .loaded tenant (.ok read)⟩ ∈ between) :
    read = text := by
  obtain ⟨since, shape, rewritten | ⟨-, reads⟩⟩ :=
    run_induction (fun _ _ => HoldsText.of_leads) (holdsText_of_wrote leads wrote) moves
  all_goals
    obtain rfl := List.append_cancel_left (ran.symm.trans shape)
  · obtain ⟨other, written, member⟩ := rewritten
    exact absurd member (unwritten other written)
  · exact reads reader read loaded

end World

end LendingRules
