import LendingRules.Proofs.Reading.NestingStep

namespace LendingRules

/-!
# Which lines enclose a line

The encloser of an entry is the nearest earlier entry that is indented less,
provided it states criteria; the fallback encloses nothing. The encloser may be
enclosed in turn, and so every entry has a chain of enclosers. The chain is
found by walking back over the earlier entries, leaving out those that do not
enclose what comes next.
-/

namespace Entry

/-- Whether the entry is the fallback. -/
def isFallback (entry : Entry) : Bool :=
  match entry.clause with
  | .fallback _ => true
  | .criteria _ _ => false

/-- The criteria on the line of an entry; the fallback has none. -/
def criteria (entry : Entry) : List Criterion :=
  match entry.clause with
  | .fallback _ => []
  | .criteria tokens _ => tokens.map CriterionToken.meaning

/-- The policy list on the line of an entry. -/
def policies? (entry : Entry) : Option PolicyList :=
  match entry.clause with
  | .fallback list => some list
  | .criteria _ list? => list?

end Entry

/--
One entry encloses another, both given by their positions: it is the nearest
earlier one that is indented less, and it states criteria.
-/
structure Encloses (entries : List Entry) (outer inner : Nat) : Prop where
  earlier : outer < inner
  shallower : ∃ outerEntry innerEntry,
    entries[outer]? = some outerEntry ∧ entries[inner]? = some innerEntry ∧
      outerEntry.indent < innerEntry.indent ∧ outerEntry.isFallback = false
  nearest : ∀ between betweenEntry innerEntry,
    outer < between → between < inner →
      entries[between]? = some betweenEntry → entries[inner]? = some innerEntry →
        innerEntry.indent ≤ betweenEntry.indent

/-- The positions of all entries around an entry, outermost first. -/
inductive Enclosers (entries : List Entry) : Nat → List Nat → Prop
  | none
      {inner : Nat}
      (unenclosed : ∀ outer, ¬ Encloses entries outer inner) :
      Enclosers entries inner []
  | inside
      {outer inner : Nat}
      {chain : List Nat}
      (encloses : Encloses entries outer inner)
      (around : Enclosers entries outer chain) :
      Enclosers entries inner (chain ++ [outer])

/-- An entry has at most one encloser. -/
theorem Encloses.unique
    {entries : List Entry}
    {first second inner : Nat}
    (firstEncloses : Encloses entries first inner)
    (secondEncloses : Encloses entries second inner) :
    first = second := by
  obtain ⟨firstEntry, innerEntry, firstStands, innerStands, firstShallower, -⟩ :=
    firstEncloses.shallower
  obtain ⟨secondEntry, innerEntry', secondStands, innerStands', secondShallower, -⟩ :=
    secondEncloses.shallower
  cases innerStands.symm.trans innerStands'
  rcases Nat.lt_trichotomy first second with less | same | more
  · have deep := firstEncloses.nearest second secondEntry innerEntry less
      secondEncloses.earlier secondStands innerStands
    omega
  · exact same
  · have deep := secondEncloses.nearest first firstEntry innerEntry more
      firstEncloses.earlier firstStands innerStands
    omega

/-- The chain of enclosers of an entry is determined. -/
theorem Enclosers.unique
    {entries : List Entry}
    {inner : Nat}
    {first second : List Nat}
    (firstChain : Enclosers entries inner first)
    (secondChain : Enclosers entries inner second) :
    first = second := by
  induction firstChain generalizing second with
  | none unenclosed =>
      cases secondChain with
      | none => rfl
      | inside encloses => exact absurd encloses (unenclosed _)
  | inside encloses around inductionHypothesis =>
      cases secondChain with
      | none unenclosed => exact absurd encloses (unenclosed _)
      | inside otherEncloses otherAround =>
          cases encloses.unique otherEncloses
          rw [inductionHypothesis otherAround]

/--
The entries that may enclose what comes next, innermost first, given the entries
before it, latest first. The fallback stops the walk back.
-/
def openEntries : List Entry → List Entry
  | [] => []
  | last :: earlier =>
      if last.isFallback then
        []
      else
        last :: openEntries (earlier.dropWhile fun entry => last.indent ≤ entry.indent)
termination_by entries => entries.length
decreasing_by
  exact Nat.lt_succ_of_le (List.dropWhile_sublist _).length_le

theorem openEntries_nil : openEntries [] = [] := by
  rw [openEntries]

theorem dropWhile_dropWhile_of_imp
    {Element : Type}
    {weak strong : Element → Bool}
    (implies : ∀ element, strong element = true → weak element = true)
    (elements : List Element) :
    (elements.dropWhile strong).dropWhile weak = elements.dropWhile weak := by
  induction elements with
  | nil => rfl
  | cons element rest inductionHypothesis =>
      cases passes : strong element with
      | false => simp [passes]
      | true => simp [passes, implies element passes, inductionHypothesis]

/--
Leaving the open entries that do not enclose a line is the same as walking back
from the nearest earlier entry that is indented less than the line.
-/
theorem dropWhile_openEntries
    {earlier : List Entry}
    (unindented : ∀ entry ∈ earlier, entry.isFallback = true → entry.indent = 0)
    (indent : Nat) :
    (openEntries earlier).dropWhile (fun entry => indent ≤ entry.indent) =
      openEntries (earlier.dropWhile fun entry => indent ≤ entry.indent) := by
  fun_induction openEntries earlier with
  | case1 => simp [openEntries_nil]
  | case2 last earlier fallback =>
      have outermost : last.indent = 0 := unindented last (by simp) fallback
      cases indent with
      | zero =>
          have all : ∀ entry ∈ last :: earlier, decide (0 ≤ entry.indent) = true := by
            simp
          rw [List.dropWhile_eq_nil_iff.mpr all, openEntries_nil]
          rfl
      | succ indent =>
          have shallow : ¬ decide (indent + 1 ≤ last.indent) = true := by
            simp [outermost]
          have kept :
              (last :: earlier).dropWhile (fun entry => indent + 1 ≤ entry.indent) =
                last :: earlier :=
            List.dropWhile_cons_of_neg shallow
          rw [kept, openEntries, if_pos fallback]
          rfl
  | case3 last earlier ordinary inductionHypothesis =>
      have restUnindented :
          ∀ entry ∈ earlier.dropWhile fun entry => last.indent ≤ entry.indent,
            entry.isFallback = true → entry.indent = 0 := by
        intro entry member
        exact unindented entry
          (List.mem_cons_of_mem _ ((List.dropWhile_sublist _).subset member))
      by_cases deep : indent ≤ last.indent
      · have implies :
            ∀ entry : Entry, decide (last.indent ≤ entry.indent) = true →
              decide (indent ≤ entry.indent) = true := by
          intro entry
          simp only [decide_eq_true_eq]
          exact Nat.le_trans deep
        rw [List.dropWhile_cons_of_pos (by simpa using deep),
          List.dropWhile_cons_of_pos (by simpa using deep),
          inductionHypothesis restUnindented, dropWhile_dropWhile_of_imp implies]
      · rw [List.dropWhile_cons_of_neg (by simpa using deep),
          List.dropWhile_cons_of_neg (by simpa using deep), openEntries, if_neg ordinary]

/--
Walking back from a position over the entries that pass a test ends behind the
nearest earlier entry that fails it.
-/
theorem exists_take_of_dropWhile
    (entries : List Entry)
    (test : Entry → Bool)
    {inner : Nat}
    (bound : inner ≤ entries.length) :
    ∃ ending, ending ≤ inner ∧
      (entries.take inner).reverse.dropWhile test = (entries.take ending).reverse ∧
        (∀ between entry, ending ≤ between → between < inner →
          entries[between]? = some entry → test entry = true) ∧
          ∀ last entry, ending = last + 1 → entries[last]? = some entry →
            test entry = false := by
  induction inner with
  | zero =>
      refine ⟨0, Nat.le_refl 0, rfl, ?_, ?_⟩
      · intro between entry _ impossible
        exact absurd impossible (Nat.not_lt_zero between)
      · intro last entry impossible
        cases impossible
  | succ inner inductionHypothesis =>
      have here : entries[inner]? = some entries[inner] := List.getElem?_eq_getElem bound
      have shape :
          (entries.take (inner + 1)).reverse =
            entries[inner] :: (entries.take inner).reverse := by
        rw [List.take_add_one, here]
        simp
      rw [shape]
      cases passes : test entries[inner] with
      | false =>
          refine ⟨inner + 1, Nat.le_refl _, ?_, ?_, ?_⟩
          · rw [List.dropWhile_cons_of_neg (by simp [passes]), ← shape]
          · intro between entry lower upper
            omega
          · intro last entry same stands
            cases same
            cases here.symm.trans stands
            exact passes
      | true =>
          obtain ⟨ending, below, dropped, passed, stopped⟩ :=
            inductionHypothesis (Nat.le_of_succ_le bound)
          refine ⟨ending, Nat.le_succ_of_le below, ?_, ?_, stopped⟩
          · rw [List.dropWhile_cons_of_pos passes, dropped]
          · intro between entry lower upper stands
            rcases Nat.lt_succ_iff_lt_or_eq.mp upper with less | same
            · exact passed between entry lower less stands
            · subst same
              cases here.symm.trans stands
              exact passes

/-- The criteria on the line of the entry at a position. -/
def criteriaAt (entries : List Entry) (position : Nat) : List Criterion :=
  entries[position]?.elim [] Entry.criteria

/-- The entries found by walking back are the enclosers. -/
theorem exists_enclosers
    {entries : List Entry}
    {inner : Nat}
    {entry : Entry}
    (stands : entries[inner]? = some entry) :
    ∃ chain, Enclosers entries inner chain ∧
      chain.flatMap (criteriaAt entries) =
        (openEntries ((entries.take inner).reverse.dropWhile fun other =>
          entry.indent ≤ other.indent)).reverse.flatMap Entry.criteria := by
  induction inner using Nat.strongRecOn generalizing entry with
  | ind inner inductionHypothesis =>
      obtain ⟨inBounds, -⟩ := List.getElem?_eq_some_iff.mp stands
      obtain ⟨ending, below, dropped, passed, stopped⟩ :=
        exists_take_of_dropWhile entries (fun other => entry.indent ≤ other.indent)
          (Nat.le_of_lt inBounds)
      rw [dropped]
      -- No entry from the end of the walk on is indented less.
      have encloses_before :
          ∀ outer, Encloses entries outer inner → outer < ending := by
        intro outer encloses
        obtain ⟨outerEntry, innerEntry, outerStands, innerStands, shallower, -⟩ :=
          encloses.shallower
        cases stands.symm.trans innerStands
        by_contra behind
        have deep := passed outer outerEntry (Nat.le_of_not_lt behind)
          encloses.earlier outerStands
        simp only [decide_eq_true_eq] at deep
        omega
      cases ending with
      | zero =>
          refine ⟨[], .none fun outer encloses => ?_, by simp [openEntries_nil]⟩
          exact absurd (encloses_before outer encloses) (Nat.not_lt_zero outer)
      | succ outer =>
          have outerStands : entries[outer]? = some entries[outer] :=
            List.getElem?_eq_getElem (Nat.lt_of_succ_le (Nat.le_trans below (Nat.le_of_lt inBounds)))
          have shallower : entries[outer].indent < entry.indent := by
            have failed := stopped outer _ rfl outerStands
            simpa using failed
          have shape :
              (entries.take (outer + 1)).reverse =
                entries[outer] :: (entries.take outer).reverse := by
            rw [List.take_add_one, outerStands]
            simp
          rw [shape, openEntries]
          cases fallback : entries[outer].isFallback with
          | true =>
              refine ⟨[], .none fun other encloses => ?_, by simp⟩
              obtain ⟨otherEntry, innerEntry, otherStands, innerStands, -, ordinary⟩ :=
                encloses.shallower
              cases stands.symm.trans innerStands
              rcases Nat.lt_succ_iff_lt_or_eq.mp (encloses_before other encloses) with
                less | same
              · have deep := encloses.nearest outer _ entry less below outerStands stands
                omega
              · subst same
                cases outerStands.symm.trans otherStands
                simp [fallback] at ordinary
          | false =>
              obtain ⟨chain, around, criteria⟩ :=
                inductionHypothesis outer (Nat.lt_of_succ_le below) outerStands
              have encloses : Encloses entries outer inner :=
                { earlier := Nat.lt_of_succ_le below
                  shallower :=
                    ⟨entries[outer], entry, outerStands, stands, shallower, fallback⟩
                  nearest := by
                    intro between betweenEntry innerEntry lower upper
                      betweenStands innerStands
                    cases stands.symm.trans innerStands
                    have deep := passed between betweenEntry lower upper betweenStands
                    simpa using deep }
              refine ⟨chain ++ [outer], .inside encloses around, ?_⟩
              simp [criteria, criteriaAt, outerStands]

end LendingRules
