namespace LendingRules

/-!
# Repetitions in a list

Letters, facets and policy types may each be named only once where they are
listed. The first element whose key has already occurred is the one at fault.
-/

universe u v

variable {Element : Type u} {Key : Type v} [DecidableEq Key]

/--
The first element whose key is among those seen before it, given the keys seen
before the list.
-/
def firstRepeatAfter? (key : Element → Key) : List Key → List Element → Option Element
  | _, [] => none
  | seen, element :: rest =>
      if key element ∈ seen then
        some element
      else
        firstRepeatAfter? key (key element :: seen) rest

/-- The first element whose key occurs earlier in the list. -/
def firstRepeat? (key : Element → Key) (elements : List Element) : Option Element :=
  firstRepeatAfter? key [] elements

theorem firstRepeatAfter?_eq_none_iff
    {key : Element → Key}
    {seen : List Key}
    {elements : List Element} :
    firstRepeatAfter? key seen elements = none ↔
      (elements.map key).Nodup ∧ ∀ element ∈ elements, key element ∉ seen := by
  induction elements generalizing seen with
  | nil => simp [firstRepeatAfter?]
  | cons element rest inductionHypothesis =>
      by_cases repeated : key element ∈ seen
      · simp [firstRepeatAfter?, repeated]
      · simp only [firstRepeatAfter?, repeated, ↓reduceIte, inductionHypothesis,
          List.mem_cons, not_or, List.map_cons, List.nodup_cons, List.mem_map,
          not_exists, not_and, forall_eq_or_imp, not_false_eq_true, true_and]
        constructor
        · rintro ⟨distinct, fresh⟩
          exact ⟨⟨fun other member => (fresh other member).1, distinct⟩,
            fun other member => (fresh other member).2⟩
        · rintro ⟨⟨different, distinct⟩, fresh⟩
          exact ⟨distinct, fun other member =>
            ⟨different other member, fresh other member⟩⟩

/-- There is no repetition exactly when the keys are pairwise different. -/
theorem firstRepeat?_eq_none_iff
    {key : Element → Key}
    {elements : List Element} :
    firstRepeat? key elements = none ↔ (elements.map key).Nodup := by
  simp [firstRepeat?, firstRepeatAfter?_eq_none_iff]

end LendingRules
