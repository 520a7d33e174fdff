import LendingRules.Proofs.Writing.Agreement

namespace LendingRules

/-!
# Where finished rules are written

A draft numbers its rules as they are given, but writes only those that stand in
the end. So a finished rule is written above the line it bears, by one line for
every replaced fallback that was given before it, and on that very line exactly
when there is no such fallback.
-/

namespace Draft

/-- The rules that calls give, also those replaced later, each on the line it takes. -/
def givenFrom : Nat → List DraftCall → List Rule
  | _, [] => []
  | next, .ranking _ :: rest => givenFrom next rest
  | next, .fallback policies :: rest =>
      ⟨.fallback, policies, next⟩ :: givenFrom (next + 1) rest
  | next, .rule criteria policies :: rest =>
      ⟨.allOf criteria, policies, next⟩ :: givenFrom (next + 1) rest

/-- The rules that calls on an empty draft give. -/
def given (calls : List DraftCall) : List Rule :=
  givenFrom empty.nextLine calls

/-- The fallbacks that a later call replaced: all that were given but the last. -/
def replaced (calls : List DraftCall) : List Rule :=
  ((given calls).filter Rule.isFallback).dropLast

/-- The rules that are given take the lines one after the other. -/
theorem lines_givenFrom
    (next : Nat)
    (calls : List DraftCall) :
    (givenFrom next calls).map Rule.line =
      List.range' next (givenFrom next calls).length := by
  fun_induction givenFrom next calls with
  | case1 => rfl
  | case2 next ranking rest inductionHypothesis => exact inductionHypothesis
  | case3 next policies rest inductionHypothesis
  | case4 next criteria policies rest inductionHypothesis =>
      rw [List.map_cons, inductionHypothesis, List.length_cons, List.range'_succ]

theorem pairwise_givenFrom
    (next : Nat)
    (calls : List DraftCall) :
    (givenFrom next calls).Pairwise fun first second => first.line < second.line := by
  apply List.pairwise_map.mp
  rw [lines_givenFrom]
  exact List.pairwise_lt_range'

theorem line_of_givenFrom
    {next call : Nat}
    {calls : List DraftCall}
    {rule : Rule}
    (called : (givenFrom next calls)[call]? = some rule) :
    rule.line = next + call := by
  have inside := (List.getElem?_eq_some_iff.mp called).1
  have line := congrArg (Option.map Rule.line) called
  rw [← List.getElem?_map, lines_givenFrom, List.getElem?_range' inside] at line
  simpa using line.symm

theorem countP_isFallback_givenFrom
    (next : Nat)
    (calls : List DraftCall) :
    (givenFrom next calls).countP Rule.isFallback =
      calls.countP DraftCall.givesFallback := by
  fun_induction givenFrom next calls with
  | case1 => rfl
  | case2 next ranking rest inductionHypothesis
  | case3 next policies rest inductionHypothesis
  | case4 next criteria policies rest inductionHypothesis =>
      simp [List.countP_cons, inductionHypothesis, Rule.isFallback, DraftCall.givesFallback]

/-- Of the rules that are given, a draft keeps all that are no fallback. -/
theorem rules_foldl
    (draft : Draft)
    (calls : List DraftCall) :
    (calls.foldl apply draft).rules =
      draft.rules ++
        (givenFrom draft.nextLine calls).filter fun rule => !rule.isFallback := by
  induction calls generalizing draft with
  | nil => simp [givenFrom]
  | cons call rest inductionHypothesis =>
      rw [List.foldl_cons, inductionHypothesis]
      cases call <;> simp [apply, givenFrom, Rule.isFallback]

/-- Of the fallbacks that are given, a draft keeps the last. -/
theorem fallback?_foldl
    (draft : Draft)
    (calls : List DraftCall) :
    (calls.foldl apply draft).fallback? =
      (draft.fallback?.toList ++
        (givenFrom draft.nextLine calls).filter Rule.isFallback).getLast? := by
  induction calls generalizing draft with
  | nil => cases given : draft.fallback? <;> simp [given, givenFrom]
  | cons call rest inductionHypothesis =>
      rw [List.foldl_cons, inductionHypothesis]
      cases call with
      | ranking ranking => rfl
      | fallback policies =>
          have keep :
              (givenFrom draft.nextLine (.fallback policies :: rest)).filter Rule.isFallback =
                ⟨.fallback, policies, draft.nextLine⟩ ::
                  (givenFrom (draft.nextLine + 1) rest).filter Rule.isFallback := rfl
          rw [keep, List.getLast?_append_of_ne_nil _ (List.cons_ne_nil _ _)]
          rfl
      | rule criteria policies => simp [apply, givenFrom, Rule.isFallback]

theorem fallback?_ofCalls (calls : List DraftCall) :
    (ofCalls calls).fallback? = ((given calls).filter Rule.isFallback).getLast? :=
  fallback?_foldl empty calls

/-- The rules that were given are those that stand and those that were replaced. -/
theorem given_perm (calls : List DraftCall) :
    (given calls).Perm ((ofCalls calls).inOrder ++ replaced calls) := by
  have ordinary : (ofCalls calls).rules = (given calls).filter fun rule => !rule.isFallback :=
    rules_foldl empty calls
  have last := fallback?_ofCalls calls
  have fallbacks :
      replaced calls ++ (ofCalls calls).fallback?.toList =
        (given calls).filter Rule.isFallback := by
    cases stands : (ofCalls calls).fallback? with
    | none =>
        rw [stands, eq_comm, List.getLast?_eq_none_iff] at last
        rw [replaced, last]
        rfl
    | some fallback => exact List.dropLast_append_getLast? fallback (last.symm.trans stands)
  have parted := List.filter_append_perm Rule.isFallback (given calls)
  rw [← fallbacks, ← ordinary, List.append_assoc] at parted
  have standing := List.perm_append_comm.trans (ofCalls calls).inOrder_perm.symm
  exact parted.symm.trans (List.perm_append_comm.trans (standing.append_right _))

end Draft

/-- Where lines ascend, as many rules bear smaller lines as stand before a rule. -/
theorem countP_line_lt
    {rules : List Rule}
    {position : Nat}
    {rule : Rule}
    (ascending : rules.Pairwise fun first second => first.line < second.line)
    (stands : rules[position]? = some rule) :
    (rules.countP fun other => other.line < rule.line) = position := by
  obtain ⟨inside, same⟩ := List.getElem?_eq_some_iff.mp stands
  have shape : rules.take position ++ rule :: rules.drop (position + 1) = rules := by
    rw [← same, List.getElem_cons_drop, List.take_append_drop]
  rw [← shape] at ascending
  obtain ⟨-, fromHere, apart⟩ := List.pairwise_append.mp ascending
  have before : ((rules.take position).countP fun other => other.line < rule.line) = position := by
    rw [List.countP_eq_length.mpr, List.length_take_of_le (Nat.le_of_lt inside)]
    intro other member
    simpa using apart other member rule List.mem_cons_self
  have behind :
      ((rule :: rules.drop (position + 1)).countP fun other => other.line < rule.line) = 0 := by
    rw [List.countP_eq_zero]
    intro other member
    rcases List.mem_cons.mp member with rfl | later
    · simp
    · simpa using Nat.le_of_lt (List.rel_of_pairwise_cons fromHere later)
  rw [← shape, List.countP_append, before, behind, Nat.add_zero]

namespace Draft

theorem mem_given_of_inOrder
    {calls : List DraftCall}
    {rule : Rule}
    (standing : rule ∈ (ofCalls calls).inOrder) :
    rule ∈ given calls :=
  (given_perm calls).mem_iff.mpr (List.mem_append_left _ standing)

/-- Where the rule at a position among the finished ones is from, and where it is written. -/
structure WrittenAt
    (calls : List DraftCall)
    (position : Nat)
    (rule : Rule) : Prop where
  given : rule ∈ given calls
  written : (textLines (ofCalls calls).text.toList)[position + 1]? = some rule.text.toList
  line_eq :
    rule.line =
      position + 2 + (replaced calls).countP fun earlier => earlier.line < rule.line

/-- The text of a draft with writable rules has the ranking above the rules in order. -/
theorem textLines_text
    {draft : Draft}
    (writable : ∀ rule ∈ draft.inOrder, rule.Writable) :
    textLines draft.text.toList =
      draft.ranking.lineCharacters :: draft.inOrder.map fun rule => rule.text.toList := by
  rw [text, toList_writtenRules]
  apply textLines_flatMap
  intro line member
  rcases List.mem_cons.mp member with rfl | written
  · exact draft.ranking.isPlain_lineCharacters.unbroken
  · obtain ⟨rule, ruleMember, rfl⟩ := List.mem_map.mp written
    exact (writable rule ruleMember).isPlain_text.unbroken

/-- Every replaced fallback given before a rule moves its line down by one. -/
theorem line_eq_of_inOrder
    {calls : List DraftCall}
    {position : Nat}
    {rule : Rule}
    (stands : (ofCalls calls).inOrder[position]? = some rule) :
    rule.line =
      position + 2 + (replaced calls).countP fun earlier => earlier.line < rule.line := by
  have member := mem_given_of_inOrder (List.mem_of_getElem? stands)
  obtain ⟨call, called⟩ := List.mem_iff_getElem?.mp member
  have numbered : rule.line = 2 + call := line_of_givenFrom called
  have givenBefore := countP_line_lt (pairwise_givenFrom empty.nextLine calls) called
  have standingBefore := countP_line_lt (Sound.ofCalls calls).pairwise_inOrder stands
  have parted := (given_perm calls).countP_eq fun other => decide (other.line < rule.line)
  rw [List.countP_append, standingBefore, given, givenBefore] at parted
  omega

/-- The last fallback comes after all that were replaced. -/
theorem line_lt_of_replaced
    {calls : List DraftCall}
    {fallback earlier : Rule}
    (stands : (ofCalls calls).fallback? = some fallback)
    (member : earlier ∈ replaced calls) :
    earlier.line < fallback.line := by
  have last := (fallback?_ofCalls calls).symm.trans stands
  have ascending := (pairwise_givenFrom empty.nextLine calls).filter Rule.isFallback
  rw [← given, ← List.dropLast_append_getLast? fallback last] at ascending
  exact (List.pairwise_append.mp ascending).2.2 earlier member fallback (by simp)

/-- Nothing was replaced exactly when the fallback was given once. -/
theorem replaced_eq_nil_iff
    {calls : List DraftCall}
    {fallback : Rule}
    (stands : (ofCalls calls).fallback? = some fallback) :
    replaced calls = [] ↔ calls.countP DraftCall.givesFallback = 1 := by
  have last := (fallback?_ofCalls calls).symm.trans stands
  have present := List.length_pos_of_mem (List.mem_of_getLast? last)
  have size := countP_isFallback_givenFrom empty.nextLine calls
  rw [List.countP_eq_length_filter, ← given] at size
  rw [replaced, ← List.length_eq_zero_iff, List.length_dropLast, ← size]
  omega

/--
The rules of a finished rulebook are those of the calls. They are written in
order below the ranking, each on the line it bears less one for every replaced
fallback before it; so all of them are written on the lines they bear exactly
when the fallback was given once.
-/
theorem writtenAt_of_finish
    {calls : List DraftCall}
    {built : Rulebook}
    (finished : (ofCalls calls).finish = .ok built) :
    (∀ position rule, built.rules[position]? = some rule → WrittenAt calls position rule) ∧
      ((∀ position rule, built.rules[position]? = some rule → rule.line = position + 2) ↔
        calls.countP DraftCall.givesFallback = 1) := by
  obtain ⟨fallback, stands, -, -, builtEq⟩ := finish_eq_ok_iff.mp finished
  have builtRules : built.rules = (ofCalls calls).inOrder := by
    rw [builtEq]
    rfl
  rw [builtRules]
  constructor
  · intro position rule found
    refine ⟨?_, ?_, line_eq_of_inOrder found⟩
    · exact mem_given_of_inOrder (List.mem_of_getElem? found)
    · rw [textLines_text (writable_of_finish finished), List.getElem?_cons_succ,
        List.getElem?_map, found]
      rfl
  · rw [← replaced_eq_nil_iff stands]
    constructor
    · intro onTheirLines
      rw [List.eq_nil_iff_forall_not_mem]
      intro earlier member
      have standing : fallback ∈ (ofCalls calls).inOrder :=
        (ofCalls calls).inOrder_perm.mem_iff.mpr (by simp [stands])
      obtain ⟨position, found⟩ := List.mem_iff_getElem?.mp standing
      have moved := line_eq_of_inOrder found
      have counted :
          0 < (replaced calls).countP fun earlier => earlier.line < fallback.line :=
        List.countP_pos_iff.mpr
          ⟨earlier, member, by simpa using line_lt_of_replaced stands member⟩
      have same := onTheirLines position fallback found
      omega
    · intro none position rule found
      have moved := line_eq_of_inOrder found
      rwa [none] at moved

/-- Calls that give a rule between two fallbacks, the second of which replaces the first. -/
def revisedCalls : List DraftCall :=
  [.fallback (.ofPairs [(.loan, "draft")]),
    .rule [⟨.materialType, .oneOf ["book"]⟩] (.ofPairs [(.loan, "reading")]),
    .fallback (.ofPairs [(.loan, "standard")])]

theorem finish_revisedCalls :
    (ofCalls revisedCalls).finish =
      .ok (.ofRules (ofCalls revisedCalls).ranking (ofCalls revisedCalls).inOrder
        (.ofText (ofCalls revisedCalls).text)) :=
  finish_eq_ok_iff.mpr ⟨_, rfl, by decide, by decide, rfl⟩

/-- The revised calls make a rulebook, whose rules are written one line above their own. -/
theorem writtenAt_revisedCalls :
    ∃ built, (ofCalls revisedCalls).finish = .ok built ∧
      (∀ position rule, built.rules[position]? = some rule →
        WrittenAt revisedCalls position rule) ∧
      ((∀ position rule, built.rules[position]? = some rule → rule.line = position + 2) ↔
        revisedCalls.countP DraftCall.givesFallback = 1) :=
  ⟨_, finish_revisedCalls, writtenAt_of_finish finish_revisedCalls⟩

/-- The revised fallback bears a line that their text does not have. -/
theorem revisedCalls_not_on_own_lines :
    ∃ built, (ofCalls revisedCalls).finish = .ok built ∧
      ∃ rule ∈ built.rules,
        (textLines (ofCalls revisedCalls).text.toList)[rule.line - 1]? ≠
          some rule.text.toList := by
  refine ⟨_, finish_revisedCalls, ⟨.fallback, .ofPairs [(.loan, "standard")], 4⟩, ?_, ?_⟩
  · exact (inOrder_perm _).mem_iff.mpr (by decide)
  · have size : (textLines (ofCalls revisedCalls).text.toList).length = 3 := by
      rw [textLines_text (writable_of_finish finish_revisedCalls), List.length_cons,
        List.length_map, (inOrder_perm _).length_eq]
      rfl
    intro found
    have inside := (List.getElem?_eq_some_iff.mp found).1
    rw [size] at inside
    exact absurd inside (by decide)

end Draft

end LendingRules
