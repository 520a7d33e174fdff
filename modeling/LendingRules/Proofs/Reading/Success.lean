import Mathlib.Data.List.Forall2

namespace LendingRules

/-!
# Computations that succeed or fail

A computation that may fail succeeds exactly when each of its steps does, and
fails with the failure of one of them. These facts take such a computation apart
into its steps.
-/

universe u v w

variable {Failure : Type u} {Given Value : Type v}

theorem bind_eq_ok_iff
    {result : Except Failure Given}
    {next : Given → Except Failure Value}
    {value : Value} :
    (result >>= next) = .ok value ↔
      ∃ given, result = .ok given ∧ next given = .ok value := by
  cases result with
  | error failure => simp [bind, Except.bind]
  | ok given => simp [bind, Except.bind]

/-- A computation fails when its first step does, or else the one after it. -/
theorem bind_eq_error_iff
    {result : Except Failure Given}
    {next : Given → Except Failure Value}
    {failure : Failure} :
    (result >>= next) = .error failure ↔
      result = .error failure ∨ ∃ given, result = .ok given ∧ next given = .error failure := by
  cases result with
  | error other => simp [bind, Except.bind]
  | ok given => simp [bind, Except.bind]

theorem map_eq_ok_iff
    {result : Except Failure Given}
    {make : Given → Value}
    {value : Value} :
    (make <$> result) = .ok value ↔
      ∃ given, result = .ok given ∧ make given = value := by
  cases result with
  | error failure => simp [Functor.map, Except.map]
  | ok given => simp [Functor.map, Except.map]

theorem map_eq_error_iff
    {result : Except Failure Given}
    {make : Given → Value}
    {failure : Failure} :
    (make <$> result) = .error failure ↔ result = .error failure := by
  cases result with
  | error other => simp [Functor.map, Except.map]
  | ok given => simp [Functor.map, Except.map]

/-- A list is worked through exactly when each element gives its value. -/
theorem mapM_eq_ok_iff
    {Element : Type w}
    {work : Element → Except Failure Value}
    {elements : List Element}
    {values : List Value} :
    elements.mapM work = .ok values ↔
      List.Forall₂ (fun element value => work element = .ok value) elements values := by
  induction elements generalizing values with
  | nil => simp [pure, Except.pure, eq_comm]
  | cons element rest inductionHypothesis =>
      simp only [List.mapM_cons, bind_eq_ok_iff, pure, Except.pure,
        Except.ok.injEq, inductionHypothesis, List.forall₂_cons_left_iff]
      constructor
      · rintro ⟨value, worked, others, restWorked, rfl⟩
        exact ⟨value, others, worked, restWorked, rfl⟩
      · rintro ⟨value, others, worked, restWorked, rfl⟩
        exact ⟨value, worked, others, restWorked, rfl⟩

/-- Where a list is not worked through, one of its elements fails. -/
theorem exists_of_mapM_eq_error
    {Element : Type w}
    {work : Element → Except Failure Value}
    {elements : List Element}
    {failure : Failure}
    (failed : elements.mapM work = .error failure) :
    ∃ element ∈ elements, work element = .error failure := by
  induction elements with
  | nil => cases failed
  | cons element rest inductionHypothesis =>
      rw [List.mapM_cons] at failed
      rcases bind_eq_error_iff.mp failed with here | ⟨value, -, failed⟩
      · exact ⟨element, List.mem_cons_self, here⟩
      · rcases bind_eq_error_iff.mp failed with behind | ⟨values, -, made⟩
        · obtain ⟨other, member, fails⟩ := inductionHypothesis behind
          exact ⟨other, List.mem_cons_of_mem _ member, fails⟩
        · cases made

/-- Every element of a list passes a check exactly when the check succeeds. -/
theorem forM_eq_ok_iff
    {Element : Type w}
    {check : Element → Except Failure PUnit}
    {elements : List Element} :
    forM elements check = .ok ⟨⟩ ↔ ∀ element ∈ elements, check element = .ok ⟨⟩ := by
  induction elements with
  | nil => simp [pure, Except.pure]
  | cons element rest inductionHypothesis =>
      rw [List.forM_cons, bind_eq_ok_iff, List.forall_mem_cons, ← inductionHypothesis]
      constructor
      · rintro ⟨⟨⟩, checked, restChecked⟩
        exact ⟨checked, restChecked⟩
      · rintro ⟨checked, restChecked⟩
        exact ⟨⟨⟩, checked, restChecked⟩

/-- What stands on the right of two related lists has its counterpart on the left. -/
theorem exists_related_of_mem
    {First : Type u}
    {Second : Type v}
    {Related : First → Second → Prop}
    {firsts : List First}
    {seconds : List Second}
    (related : List.Forall₂ Related firsts seconds)
    {second : Second}
    (member : second ∈ seconds) :
    ∃ first ∈ firsts, Related first second := by
  induction related with
  | nil => simp at member
  | cons head tail inductionHypothesis =>
      rcases List.mem_cons.mp member with rfl | member
      · exact ⟨_, by simp, head⟩
      · obtain ⟨first, firstMember, relatedHere⟩ := inductionHypothesis member
        exact ⟨first, by simp [firstMember], relatedHere⟩

end LendingRules
