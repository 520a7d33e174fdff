import LendingRules.Proofs.Interleaving.Transition

namespace LendingRules

/-!
# Histories of runs

A history only grows, by at most one occurrence with each move. So every
occurrence in the history of a run marks a point in that run: the history up to
the occurrence is that of the world in which its task took the step.
-/

namespace World

/-- Whoever is under way and whatever has happened bears an earlier number. -/
structure Numbered (world : World) : Prop where
  tasks :
    ∀ number task, world.tasks number = some task → number < world.nextTask
  history :
    ∀ occurrence ∈ world.history, occurrence.task < world.nextTask

theorem numbered_start (lifetimes : Lifetimes) (texts : List (String × String)) :
    (start lifetimes texts).Numbered where
  tasks := by
    intro number task underWay
    simp [start] at underWay
  history := by
    intro occurrence member
    simp [start] at member

theorem Numbered.of_leads
    {world next : World}
    (leads : world.Leads next)
    (numbered : world.Numbered) :
    next.Numbered := by
  cases leads with
  | idle => exact numbered
  | started operation =>
      constructor
      · intro query task underWay
        rcases task_of_startTask underWay with ⟨rfl, -⟩ | before
        · exact Nat.lt_succ_self _
        · exact Nat.lt_succ_of_lt (numbered.tasks query task before)
      · intro occurrence member
        exact Nat.lt_succ_of_lt (numbered.history occurrence member)
  | @performed number performing effect wasUnderWay leads =>
      have ofNumber := numbered.tasks number performing wasUnderWay
      constructor
      · intro query task underWay
        rcases task_of_settle underWay with ⟨rfl, -⟩ | ⟨rfl, -⟩ | ⟨-, before⟩
        · exact Nat.lt_succ_self _
        · exact Nat.lt_succ_of_lt ofNumber
        · exact Nat.lt_succ_of_lt (numbered.tasks query task before)
      · intro occurrence member
        rcases List.mem_append.mp member with earlier | now
        · exact Nat.lt_succ_of_lt (numbered.history occurrence earlier)
        · obtain ⟨event, -, rfl⟩ := List.mem_map.mp now
          exact Nat.lt_succ_of_lt ofNumber
  | abandoned =>
      constructor
      · intro query task underWay
        exact numbered.tasks query task (task_of_giveUp underWay)
      · exact numbered.history
  | advanced | outage =>
      exact ⟨numbered.tasks, numbered.history⟩

theorem Numbered.run
    {world : World}
    (numbered : world.Numbered)
    (moves : List Move) :
    (world.run moves).Numbered :=
  run_induction (fun _ _ leads => .of_leads leads) numbered moves

/-- A move adds at most one occurrence to the history. -/
theorem Leads.history
    {world next : World}
    (leads : world.Leads next) :
    ∃ happened? : Option Occurrence,
      next.history = world.history ++ happened?.toList := by
  cases leads with
  | @performed number task effect underWay leads =>
      refine ⟨effect.event?.map (⟨number, ·⟩), ?_⟩
      rw [settle, Option.toList_map]
  | _ => exact ⟨none, (List.append_nil _).symm⟩

/-- An occurrence is added by a step of the task it comes from. -/
theorem Leads.of_history
    {world next : World}
    {occurrence : Occurrence}
    (leads : world.Leads next)
    (grown : next.history = world.history ++ [occurrence]) :
    ∃ task effect,
      world.tasks occurrence.task = some task ∧
        task.Leads world.service effect ∧
        effect.event? = some occurrence.event ∧
        next = world.settle occurrence.task effect := by
  cases leads with
  | @performed number task effect underWay leads =>
      have happened := List.append_cancel_left grown
      cases event : effect.event? with
      | none =>
          simp [event] at happened
      | some value =>
          simp only [event, Option.toList_some, List.map_cons, List.map_nil,
            List.cons.injEq, and_true] at happened
          subst happened
          exact ⟨task, effect, underWay, leads, event, rfl⟩
  | _ => exact absurd (List.append_right_eq_self.mp grown.symm) (by simp)

/-- A run adds to the history and leaves in place what was there. -/
theorem history_run (world : World) (moves : List Move) :
    ∃ added, (world.run moves).history = world.history ++ added := by
  induction moves generalizing world with
  | nil => exact ⟨[], (List.append_nil _).symm⟩
  | cons move rest inductionHypothesis =>
      obtain ⟨happened?, first⟩ := (world.leads_step move).history
      obtain ⟨added, others⟩ := inductionHypothesis (world.step move)
      refine ⟨happened?.toList ++ added, ?_⟩
      rw [run_cons, others, first, List.append_assoc]

/-- Every occurrence that a run adds is added by one of its moves. -/
theorem exists_move_of_history
    {world : World}
    {moves : List Move}
    {between later : List Occurrence}
    {occurrence : Occurrence}
    (shape :
      (world.run moves).history =
        world.history ++ (between ++ occurrence :: later)) :
    ∃ first move rest,
      moves = first ++ move :: rest ∧
        (world.run first).history = world.history ++ between ∧
        ((world.run first).step move).history =
          world.history ++ between ++ [occurrence] := by
  induction moves generalizing world between with
  | nil =>
      have none := List.append_right_eq_self.mp shape.symm
      simp at none
  | cons move rest inductionHypothesis =>
      obtain ⟨happened?, grown⟩ := (world.leads_step move).history
      cases happened? with
      | none =>
          rw [Option.toList_none, List.append_nil] at grown
          rw [run_cons, ← grown] at shape
          obtain ⟨first, last, others, rfl, before, after⟩ :=
            inductionHypothesis shape
          refine ⟨move :: first, last, others, rfl, ?_, ?_⟩
          · rw [run_cons, before, grown]
          · rw [run_cons, after, grown]
      | some happened =>
          rw [Option.toList_some] at grown
          obtain ⟨added, ran⟩ := (world.step move).history_run rest
          have whole : happened :: added = between ++ occurrence :: later := by
            rw [run_cons, ran, grown, List.append_assoc] at shape
            exact List.append_cancel_left shape
          cases between with
          | nil =>
              obtain ⟨rfl, rfl⟩ := List.cons.inj whole
              refine ⟨[], move, rest, rfl, ?_, ?_⟩
              · rw [run_nil, List.append_nil]
              · rw [run_nil, grown, List.append_nil]
          | cons head between =>
              obtain ⟨rfl, rfl⟩ := List.cons.inj whole
              have shapeAfter :
                  ((world.step move).run rest).history =
                    (world.step move).history ++ (between ++ occurrence :: later) :=
                ran
              obtain ⟨first, last, others, rfl, before, after⟩ :=
                inductionHypothesis shapeAfter
              refine ⟨move :: first, last, others, rfl, ?_, ?_⟩
              · rw [run_cons, before, grown, List.append_assoc, List.singleton_append]
              · rw [run_cons, after, grown, List.append_assoc world.history,
                  List.singleton_append]

/-- A run may be cut at any two occurrences of its history. -/
theorem exists_cut_of_history
    {world : World}
    {moves : List Move}
    {earlier between later : List Occurrence}
    {occurrence last : Occurrence}
    (empty : world.history = [])
    (shape :
      (world.run moves).history =
        earlier ++ occurrence :: (between ++ last :: later)) :
    ∃ first move second answer,
      ((world.run first).step move).history =
          (world.run first).history ++ [occurrence] ∧
        (((world.run first).step move).run second).history =
            ((world.run first).step move).history ++ between ∧
          ((((world.run first).step move).run second).step answer).history =
            (((world.run first).step move).run second).history ++ [last] := by
  have fromStart :
      (world.run moves).history =
        world.history ++ (earlier ++ occurrence :: (between ++ last :: later)) := by
    rw [shape, empty, List.nil_append]
  obtain ⟨first, move, rest, rfl, before, after⟩ := exists_move_of_history fromStart
  rw [← before] at after
  have fromOccurrence :
      (((world.run first).step move).run rest).history =
        ((world.run first).step move).history ++ (between ++ last :: later) := by
    rw [run_append, run_cons] at fromStart
    rw [fromStart, after, before, List.append_assoc, List.append_assoc,
      List.singleton_append]
  obtain ⟨second, answer, others, rfl, unanswered, answered⟩ :=
    exists_move_of_history fromOccurrence
  rw [← unanswered] at answered
  exact ⟨first, move, second, answer, after, unanswered, answered⟩

end World

end LendingRules
