import LendingRules.Proofs.Writing.Renumbering
import Mathlib.Data.List.Perm.Subperm

namespace LendingRules

open Std

/-!
# Drafts agree with their text

A draft can be finished into a rulebook, and its text can be read as one. When
both succeed the two rulebooks say the same: they have one ranking, one digest
and the same rules in the same order. Only the lines of the rules may differ,
since a fallback that was replaced has used up a line; with a single call for
the fallback even the lines are the same.
-/

/-- Whether a call gives the fallback. -/
def DraftCall.givesFallback : DraftCall → Bool
  | .fallback _ => true
  | .ranking _ | .rule _ _ => false

namespace Draft

/-- How the lines of a draft are counted, given the number of fallbacks so far. -/
structure Counted (draft : Draft) (fallbacks : Nat) : Prop where
  nextLine : draft.nextLine = 2 + draft.rules.length + fallbacks
  begins : ∀ rule ∈ draft.rules ++ draft.fallback?.toList, 2 ≤ rule.line

namespace Counted

theorem empty : Draft.empty.Counted 0 :=
  ⟨rfl, by simp [Draft.empty]⟩

/-- A call takes the next line when it gives a rule. -/
theorem apply
    {draft : Draft}
    {fallbacks : Nat}
    (counted : draft.Counted fallbacks)
    (call : DraftCall) :
    (draft.apply call).Counted (fallbacks + call.givesFallback.toNat) := by
  have nextLine := counted.nextLine
  have later : 2 ≤ draft.nextLine := by omega
  have begins := counted.begins
  rw [List.forall_mem_append] at begins
  cases call with
  | ranking ranking => exact ⟨nextLine, counted.begins⟩
  | fallback policies =>
      refine ⟨?_, List.forall_mem_append.mpr ⟨begins.1, by simpa [Draft.apply] using later⟩⟩
      simp only [Draft.apply, DraftCall.givesFallback, Bool.toNat_true, nextLine]
      omega
  | rule criteria policies =>
      refine ⟨?_, List.forall_mem_append.mpr ⟨?_, begins.2⟩⟩
      · simp only [Draft.apply, DraftCall.givesFallback, Bool.toNat_false, nextLine,
          List.length_append, List.length_singleton]
        omega
      · intro rule member
        rcases List.mem_append.mp member with old | new
        · exact begins.1 rule old
        · cases List.mem_singleton.mp new
          exact later

theorem foldl
    {draft : Draft}
    {fallbacks : Nat}
    (counted : draft.Counted fallbacks)
    (calls : List DraftCall) :
    (calls.foldl Draft.apply draft).Counted
      (fallbacks + calls.countP DraftCall.givesFallback) := by
  induction calls generalizing draft fallbacks with
  | nil => exact counted
  | cons call rest inductionHypothesis =>
      have step := inductionHypothesis (counted.apply call)
      have total :
          fallbacks + (call :: rest).countP DraftCall.givesFallback =
            fallbacks + call.givesFallback.toNat +
              rest.countP DraftCall.givesFallback := by
        cases given : call.givesFallback with
        | false => simp [given]
        | true =>
            simp only [List.countP_cons, given, ↓reduceIte, Bool.toNat_true]
            omega
      rw [total]
      exact step

theorem ofCalls (calls : List DraftCall) :
    (Draft.ofCalls calls).Counted (calls.countP DraftCall.givesFallback) := by
  have counted := Counted.empty.foldl calls
  rwa [Nat.zero_add] at counted

end Counted

/-- With one fallback call the rules of a draft stand on successive lines. -/
theorem lines_inOrder
    {calls : List DraftCall}
    (once : calls.countP DraftCall.givesFallback = 1)
    (given : (ofCalls calls).fallback?.isSome = true) :
    (ofCalls calls).inOrder.map Rule.line =
      List.range' 2 (ofCalls calls).inOrder.length := by
  have sound := Sound.ofCalls calls
  have counted := Counted.ofCalls calls
  rw [once] at counted
  generalize ofCalls calls = draft at *
  obtain ⟨fallback, given⟩ := Option.isSome_iff_exists.mp given
  have size : draft.inOrder.length = draft.rules.length + 1 := by
    rw [draft.inOrder_perm.length_eq, List.length_append, given]
    rfl
  have nextLine := counted.nextLine
  have ascending :
      (draft.inOrder.map Rule.line).Pairwise fun first second => first < second :=
    List.pairwise_map.mpr sound.pairwise_inOrder
  have within : draft.inOrder.map Rule.line ⊆ List.range' 2 draft.inOrder.length := by
    intro line member
    obtain ⟨rule, ruleMember, rfl⟩ := List.mem_map.mp member
    have drafted := draft.inOrder_perm.mem_iff.mp ruleMember
    have begins := counted.begins rule drafted
    have ends : rule.line < draft.nextLine := by
      rcases List.mem_append.mp drafted with ordinary | last
      · exact (sound.ordinary rule ordinary).2
      · exact (sound.fallback rule (Option.mem_toList.mp last)).2
    rw [List.mem_range'_1, size]
    omega
  -- The lines are different and as many as there are in the range, so they fill it.
  have same : (draft.inOrder.map Rule.line).Perm (List.range' 2 draft.inOrder.length) := by
    have distinct := ascending.imp Nat.ne_of_lt
    exact (List.subperm_of_subset distinct within).perm_of_length_le (by simp)
  refine List.Perm.eq_of_pairwise ?_ ascending List.pairwise_lt_range' same
  intro first second _ _ before behind
  exact absurd behind (Nat.lt_asymm before)

/-- The rules of a finished draft can be written. -/
theorem writable_of_finish
    {calls : List DraftCall}
    {built : Rulebook}
    (finished : (ofCalls calls).finish = .ok built) :
    ∀ rule ∈ (ofCalls calls).inOrder, rule.Writable := by
  obtain ⟨fallback, given, fallbackFlawless, flawless, -⟩ := finish_eq_ok_iff.mp finished
  intro rule member
  apply Rule.writable_of_flaw?
  rcases List.mem_append.mp ((inOrder_perm _).mem_iff.mp member) with ordinary | last
  · exact flawless rule ordinary
  · have same : rule = fallback := by simpa [given, eq_comm] using last
    exact same ▸ fallbackFlawless

end Draft

/-- Rules on successive lines are written where they stand. -/
theorem onLinesFrom_eq_self
    {rules : List Rule}
    {next : Nat}
    (successive : rules.map Rule.line = List.range' next rules.length) :
    onLinesFrom next rules = rules := by
  induction rules generalizing next with
  | nil => rfl
  | cons rule others inductionHypothesis =>
      rw [List.map_cons, List.length_cons, List.range'_succ, List.cons.injEq] at successive
      rw [onLinesFrom, ← successive.1, successive.1, inductionHypothesis successive.2,
        ← successive.1]

/-- Rules that differ in their lines at most. -/
structure Rule.SameButLine (first second : Rule) : Prop where
  criteria : first.criteria = second.criteria
  facets : first.facets = second.facets
  policies : first.policies = second.policies
  isFallback : first.isFallback = second.isFallback

/--
What it means that the rulebook finished from calls and the one read from their
text say the same.
-/
structure Draft.AgreesWithText
    (calls : List DraftCall)
    (built read : Rulebook) : Prop where
  ranking : built.ranking = read.ranking
  builtDigest : built.digest = .ofText (Draft.ofCalls calls).text
  readDigest : read.digest = .ofText (Draft.ofCalls calls).text
  size : built.size = read.size
  rules : List.Forall₂ Rule.SameButLine built.rules read.rules
  lines : calls.countP DraftCall.givesFallback = 1 →
    built.rules.map Rule.line = read.rules.map Rule.line
  rulings : ∃ renumber : Nat → Nat, KeepsOrder renumber built.rules ∧
    read.rules.map Rule.line = built.rules.map (fun rule => renumber rule.line) ∧
      ∀ request type, read.rulings request type =
        (built.rulings request type).map (Ruling.renumbered renumber)

namespace Draft

/-- A finished draft and its text agree whenever the text is accepted. -/
theorem agreesWithText_of_finish_of_ofText
    {calls : List DraftCall}
    {built read : Rulebook}
    (finished : (ofCalls calls).finish = .ok built)
    (compiled : Rulebook.ofText (ofCalls calls).text = .ok read) :
    AgreesWithText calls built read := by
  have builtMade : built.Made := .ofDraft finished
  have readMade : read.Made := .ofText compiled
  have writable := writable_of_finish finished
  obtain ⟨fallback, given, -, -, builtEq⟩ := finish_eq_ok_iff.mp finished
  have readEq := Rulebook.eq_of_ofText_writtenRules writable compiled
  have builtRules : built.rules = (ofCalls calls).inOrder := by
    rw [builtEq]
    rfl
  have sameRanking : read.ranking = built.ranking := by
    rw [readEq, builtEq]
    rfl
  have readRules : read.rules = onLinesFrom 2 built.rules := by
    rw [builtRules, readEq]
    rfl
  have ascending := builtMade.soundRules.1.ascending
  have moved :
      read.rules = built.rules.map (Rule.renumbered (writtenLine 2 built.rules)) := by
    rw [readRules, onLinesFrom_eq_map 2 ascending]
  have keeps := keepsOrder_writtenLine 2 built.rules
  refine
    { ranking := sameRanking.symm
      builtDigest := ?_
      readDigest := Rulebook.digest_of_ofText compiled
      size := ?_
      rules := ?_
      lines := ?_
      rulings := ⟨writtenLine 2 built.rules, keeps, ?_, ?_⟩ }
  · rw [builtEq]
    rfl
  · rw [Rulebook.size, Rulebook.size, moved, List.length_map]
  · rw [moved, List.forall₂_map_right_iff, List.forall₂_same]
    intro rule _
    exact ⟨rfl, rfl, rfl, rfl⟩
  · intro once
    have successive := lines_inOrder once (by simp [given])
    rw [← builtRules] at successive
    rw [readRules, onLinesFrom_eq_self successive]
  · rw [moved, List.map_map]
    rfl
  · intro request type
    exact builtMade.rulings_renumbered readMade keeps sameRanking moved request type

/-- Calls that replace the fallback, with a rule in between and a ranking. -/
def replacingCalls : List DraftCall :=
  [.fallback (.ofPairs [(.loan, "draft")]),
    .rule
      [⟨.materialType, .oneOf ["book", "all"]⟩, ⟨.patronGroup, .noneOf ["guest"]⟩,
        ⟨.loanType, .anyId⟩]
      (.ofPairs [(.loan, "reading"), (.request, "hold")]),
    .ranking (.ofKeys [.precedence .customary, .line .firstLine]),
    .fallback (.ofPairs [(.loan, "standard")])]

/-- The replacing calls make a rulebook, and so does their text. -/
theorem agreesWithText_replacingCalls :
    ∃ built read, (ofCalls replacingCalls).finish = .ok built ∧
      Rulebook.ofText (ofCalls replacingCalls).text = .ok read ∧
        AgreesWithText replacingCalls built read := by
  have finished :
      (ofCalls replacingCalls).finish =
        .ok (.ofRules (ofCalls replacingCalls).ranking (ofCalls replacingCalls).inOrder
          (.ofText (ofCalls replacingCalls).text)) :=
    finish_eq_ok_iff.mpr ⟨_, rfl, by decide, by decide, rfl⟩
  have ordered :
      (ofCalls replacingCalls).inOrder =
        (ofCalls replacingCalls).rules ++ (ofCalls replacingCalls).fallback?.toList :=
    List.mergeSort_of_pairwise (by decide)
  have accepted : (Rulebook.ofText (ofCalls replacingCalls).text).isOk = true := by
    rw [Draft.text, ordered]
    decide +kernel
  cases compiled : Rulebook.ofText (ofCalls replacingCalls).text with
  | error error =>
      rw [compiled] at accepted
      cases accepted
  | ok read =>
      exact ⟨_, read, finished, rfl, agreesWithText_of_finish_of_ofText finished compiled⟩

end Draft

end LendingRules
