import LendingRules.Proofs.Reading.EarliestFault
import LendingRules.Proofs.Writing.Agreement

namespace LendingRules

/-!
# Which drafts have text that is accepted

Finishing a draft checks its rules, and so their lines have no fault. It does
not check the ranking: a ranking may have two keys of one kind, which the line
that declares it may not. The text of a finished draft is accepted exactly when
its ranking has no such keys.
-/

namespace RankingItem

variable {items : List RankingItem}

theorem StandsFor.keyKind_eq
    {item : RankingItem}
    {key : RankingKey}
    (stands : item.StandsFor key) :
    item.keyKind = key.kind :=
  (kind_of_key_eq_ok (stands.key_eq 0)).symm

theorem map_keyKind_eq
    {keys : List RankingKey}
    (stand : List.Forall₂ StandsFor items keys) :
    items.map keyKind = keys.map RankingKey.kind := by
  rw [← List.forall₂_eq_eq_eq, List.forall₂_map_left_iff, List.forall₂_map_right_iff]
  exact stand.imp fun item key stands => stands.keyKind_eq

/-- Items that stand for a ranking are at fault only for two keys of one kind. -/
theorem faultless_iff_nodup
    {ranking : Ranking}
    (stand : List.Forall₂ StandsFor items ranking.keys) :
    (∀ problem, ¬ Fault items problem) ↔ (ranking.keys.map RankingKey.kind).Nodup := by
  have kinds := map_keyKind_eq stand
  constructor
  · intro faultless
    rw [← kinds]
    exact List.nodup_iff_forall_not_duplicate.mpr fun kind twice =>
      faultless _ (.repeatedKey twice)
  · intro distinct problem fault
    cases fault with
    | letters member lists fault =>
        obtain ⟨key, -, stands⟩ := exists_related_of_mem stand.flip member
        exact (judges_key _ 0).faultless_of_ok key (stands.key_eq 0) _ ⟨_, lists, fault⟩
    | repeatedKey twice => exact (kinds ▸ twice).not_nodup distinct
    | lineKeyNotLast member isLine =>
        rename_i item
        -- The last key is a line preference, so one before it repeats its kind.
        have leading : items.dropLast.map keyKind = ranking.leading.map RankingKey.kind := by
          rw [List.map_dropLast, kinds, Ranking.keys, List.map_append]
          exact List.dropLast_concat
        have listed : RankingKeyKind.line ∈ ranking.leading.map RankingKey.kind := by
          rw [← leading, ← isLine]
          exact List.mem_map_of_mem member
        rw [Ranking.keys, List.map_append, List.nodup_append] at distinct
        exact distinct.2.2 _ listed _ List.mem_cons_self rfl

end RankingItem

namespace Entry

variable {entries : List Entry} {rules : List Rule}

theorem Gives.isFallback_eq
    {entry : Entry}
    {rule : Rule}
    (gives : entry.Gives rule) :
    entry.isFallback = rule.isFallback := by
  have given := gives.rule?_eq
  rcases entry with ⟨line, indent, clause⟩
  cases clause with
  | fallback list =>
      cases given
      rfl
  | criteria tokens list? =>
      obtain ⟨list, -, rfl⟩ := Option.map_eq_some_iff.mp given
      rfl

theorem countP_isFallback_eq
    (give : List.Forall₂ Gives entries rules) :
    entries.countP isFallback = rules.countP Rule.isFallback := by
  induction give with
  | nil => rfl
  | cons gives _ inductionHypothesis =>
      rw [List.countP_cons, List.countP_cons, inductionHypothesis, gives.isFallback_eq]

/-- A fallback with another one before it is not the only one. -/
theorem not_any_take_of_countP_eq_one
    {position : Nat}
    {entry : Entry}
    (oneFallback : entries.countP isFallback = 1)
    (stands : entries[position]? = some entry)
    (fallback : entry.isFallback = true) :
    ¬ (entries.take position).any isFallback = true := by
  intro given
  have before : 0 < (entries.take position).countP isFallback :=
    List.countP_pos_iff.mpr (List.any_eq_true.mp given)
  have begins : (entries.drop position)[0]? = some entry := by
    simpa using stands
  have here : 0 < (entries.drop position).countP isFallback :=
    List.countP_pos_iff.mpr ⟨entry, List.mem_of_getElem? begins, fallback⟩
  rw [← List.take_append_drop position entries, List.countP_append] at oneFallback
  omega

/-- Entries that give rules with one fallback among them have no fault. -/
theorem faultless_of_give
    (give : List.Forall₂ Gives entries rules)
    (oneFallback : rules.countP Rule.isFallback = 1) :
    ∀ position problem, ¬ Fault entries position problem := by
  rw [← countP_isFallback_eq give] at oneFallback
  intro position problem fault
  obtain ⟨⟨line, indent, clause⟩, stands⟩ := exists_of_fault fault
  obtain ⟨rule, -, gives⟩ := exists_related_of_mem give.flip (List.mem_of_getElem? stands)
  obtain ⟨unindented, accepted, -⟩ := gives
  cases (unindented : indent = 0)
  cases clause with
  | fallback list =>
      obtain ⟨policies, accepted⟩ := accepted
      rcases (fault_fallback_iff stands).mp fault with ⟨indented, -⟩ | ⟨given, -⟩ | fault
      · exact Nat.lt_irrefl 0 indented
      · exact not_any_take_of_countP_eq_one oneFallback stands rfl given
      · exact (list.judges_policies line).faultless_of_ok policies (accepted line) problem fault
  | criteria tokens list? =>
      obtain ⟨⟨criteria, extended⟩, list, policies, rfl, accepted⟩ := accepted
      have unenclosed : Enclosers entries position [] := by
        refine .none fun outer encloses => ?_
        obtain ⟨outerEntry, innerEntry, -, innerStands, shallower, -⟩ := encloses.shallower
        cases stands.symm.trans innerStands
        exact Nat.not_lt_zero _ shallower
      rcases (fault_criteria_iff stands unenclosed).mp fault with
        fault | ⟨list, same, fault⟩ | ⟨-, headerOnly, -⟩
      · exact (CriterionToken.judges_extend line [] tokens).faultless_of_ok criteria
          (extended line) problem fault
      · cases same
        exact (list.judges_policies line).faultless_of_ok policies (accepted line) problem fault
      · cases headerOnly

end Entry

theorem countP_onLinesFrom (next : Nat) (rules : List Rule) :
    (onLinesFrom next rules).countP Rule.isFallback = rules.countP Rule.isFallback := by
  induction rules generalizing next with
  | nil => rfl
  | cons rule others inductionHypothesis =>
      rw [onLinesFrom, List.countP_cons, List.countP_cons, inductionHypothesis]
      rfl

namespace Document

/-- When the entries are without fault and one is the fallback, only the ranking can be at fault. -/
theorem faultless_iff_of_entries
    {document : Document}
    (entries : ∀ position problem, ¬ Entry.Fault document.entries position problem)
    (given : 0 < document.entries.countP Entry.isFallback) :
    (∀ line problem, ¬ document.Fault line problem) ↔
      ∀ problem, ¬ RankingItem.Fault document.rankingItems problem := by
  constructor
  · exact fun faultless problem fault => faultless _ problem (.ranking fault)
  · intro ranked line problem fault
    cases fault with
    | ranking fault => exact ranked problem fault
    | entry stands fault => exact entries _ problem fault
    | fallbackMissing missing =>
        obtain ⟨entry, member, fallback⟩ := List.countP_pos_iff.mp given
        rw [missing entry member] at fallback
        cases fallback

end Document

/-- Writable rules with one fallback are accepted when no two keys above them are of one kind. -/
theorem Rulebook.exists_ofText_writtenRules_iff
    {ranking : Ranking}
    {rules : List Rule}
    (writable : ∀ rule ∈ rules, rule.Writable)
    (oneFallback : rules.countP Rule.isFallback = 1) :
    (∃ read, Rulebook.ofText (writtenRules ranking rules) = .ok read) ↔
      (ranking.keys.map RankingKey.kind).Nodup := by
  rw [← countP_onLinesFrom 2] at oneFallback
  obtain ⟨document, documentRead, stand, give⟩ :=
    Document.exists_of_writtenRules ranking writable
  have given : 0 < document.entries.countP Entry.isFallback := by
    rw [Entry.countP_isFallback_eq give, oneFallback]
    exact Nat.one_pos
  have faultless := Entry.faultless_of_give give oneFallback
  rw [← RankingItem.faultless_iff_nodup stand,
    ← Document.faultless_iff_of_entries faultless given]
  exact Rulebook.exists_ofText_iff_faultless documentRead

namespace Draft

/--
The text of a finished draft is accepted exactly when no two keys of its ranking
are of one kind.
-/
theorem exists_ofText_iff_nodup_of_finish
    {calls : List DraftCall}
    {built : Rulebook}
    (finished : (ofCalls calls).finish = .ok built) :
    (∃ read, Rulebook.ofText (ofCalls calls).text = .ok read) ↔
      ((ofCalls calls).ranking.keys.map RankingKey.kind).Nodup := by
  have oneFallback : (ofCalls calls).inOrder.countP Rule.isFallback = 1 :=
    ((Sound.ofCalls calls).soundRules finished).oneFallback
  exact Rulebook.exists_ofText_writtenRules_iff (writable_of_finish finished) oneFallback

/-- The text of the replacing calls is accepted, for no two of their keys are of one kind. -/
theorem exists_ofText_replacingCalls :
    (∃ built, (ofCalls replacingCalls).finish = .ok built) ∧
      ∃ read, Rulebook.ofText (ofCalls replacingCalls).text = .ok read := by
  have finished :
      (ofCalls replacingCalls).finish =
        .ok (.ofRules (ofCalls replacingCalls).ranking (ofCalls replacingCalls).inOrder
          (.ofText (ofCalls replacingCalls).text)) :=
    finish_eq_ok_iff.mpr ⟨_, rfl, by decide, by decide, rfl⟩
  exact ⟨⟨_, finished⟩, (exists_ofText_iff_nodup_of_finish finished).mpr (by decide)⟩

/-- Calls that rank by the number of criteria twice. -/
def repeatedKindCalls : List DraftCall :=
  [.ranking (.ofKeys [.criteriaCount, .criteriaCount]),
    .fallback (.ofPairs [(.loan, "x")])]

/-- The calls make a rulebook, and their text is refused. -/
theorem ofText_repeatedKindCalls :
    (∃ built, (ofCalls repeatedKindCalls).finish = .ok built) ∧
      Rulebook.ofText (ofCalls repeatedKindCalls).text =
        .error (.ruleError ⟨1, 31, .repeatedRankingKey⟩) := by
  have finished :
      (ofCalls repeatedKindCalls).finish =
        .ok (.ofRules (ofCalls repeatedKindCalls).ranking (ofCalls repeatedKindCalls).inOrder
          (.ofText (ofCalls repeatedKindCalls).text)) :=
    finish_eq_ok_iff.mpr ⟨_, rfl, by decide, by decide, rfl⟩
  have ordered :
      (ofCalls repeatedKindCalls).inOrder =
        (ofCalls repeatedKindCalls).rules ++ (ofCalls repeatedKindCalls).fallback?.toList :=
    List.mergeSort_of_pairwise (by decide)
  refine ⟨⟨_, finished⟩, ?_⟩
  rw [Draft.text, ordered]
  decide +kernel

end Draft

end LendingRules
