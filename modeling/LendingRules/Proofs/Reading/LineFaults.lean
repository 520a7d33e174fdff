import LendingRules.Proofs.Reading.Faults
import Mathlib.Data.List.Perm.Subperm

namespace LendingRules

/-!
# Faults within one line

Letters, policies, ranking keys and criteria are each checked on their own line.
Such a check fails with a fault of what it checks, told on that line, and it
succeeds only where there is no fault of that kind.
-/

/-- An element is found because its key came before, in the list or ahead of it. -/
theorem mem_and_repeated_of_firstRepeatAfter?
    {Element Key : Type}
    [DecidableEq Key]
    {key : Element → Key}
    {seen : List Key}
    {elements : List Element}
    {element : Element}
    (found : firstRepeatAfter? key seen elements = some element) :
    key element ∈ elements.map key ∧
      (key element ∈ seen ∨ List.Duplicate (key element) (elements.map key)) := by
  induction elements generalizing seen with
  | nil => simp [firstRepeatAfter?] at found
  | cons first rest inductionHypothesis =>
      unfold firstRepeatAfter? at found
      by_cases repeated : key first ∈ seen
      · rw [if_pos repeated, Option.some.injEq] at found
        subst found
        exact ⟨by simp, .inl repeated⟩
      · rw [if_neg repeated] at found
        obtain ⟨member, before | twice⟩ := inductionHypothesis found
        · rcases List.mem_cons.mp before with same | before
          · rw [List.map_cons, ← same]
            exact ⟨by simp, .inr (List.Mem.duplicate_cons_self member)⟩
          · exact ⟨List.mem_cons_of_mem _ member, .inl before⟩
        · exact ⟨List.mem_cons_of_mem _ member, .inr (twice.duplicate_cons _)⟩

/-- The key of a repetition occurs twice. -/
theorem duplicate_of_firstRepeat?
    {Element Key : Type}
    [DecidableEq Key]
    {key : Element → Key}
    {elements : List Element}
    {element : Element}
    (found : firstRepeat? key elements = some element) :
    List.Duplicate (key element) (elements.map key) := by
  obtain ⟨-, before | twice⟩ := mem_and_repeated_of_firstRepeatAfter? found
  · exact absurd before List.not_mem_nil
  · exact twice

/--
A check of what stands on a line fails, on that line, with a fault of it, and
succeeds only where there is none.
-/
structure Judges
    {Value : Type}
    (result : Except RuleError Value)
    (line : Nat)
    (Fault : RuleProblem → Prop) : Prop where
  fault_of_error : ∀ error, result = .error error → error.line = line ∧ Fault error.problem
  faultless_of_ok : ∀ value, result = .ok value → ∀ problem, ¬ Fault problem

/-- Making something of what was checked leaves the judgement as it is. -/
theorem Judges.map
    {Checked Value : Type}
    {result : Except RuleError Checked}
    {line : Nat}
    {Fault : RuleProblem → Prop}
    (judges : Judges result line Fault)
    (make : Checked → Value) :
    Judges (make <$> result) line Fault where
  fault_of_error := fun error failed =>
    judges.fault_of_error error (map_eq_error_iff.mp failed)
  faultless_of_ok := by
    intro value made
    obtain ⟨checked, succeeded, -⟩ := map_eq_ok_iff.mp made
    exact judges.faultless_of_ok checked succeeded

/-- Checks made one after the other judge by the faults of either. -/
theorem Judges.bind
    {Checked Value : Type}
    {result : Except RuleError Checked}
    {next : Checked → Except RuleError Value}
    {line : Nat}
    {Fault NextFault : RuleProblem → Prop}
    (judges : Judges result line Fault)
    (nextJudges : ∀ checked, result = .ok checked → Judges (next checked) line NextFault) :
    Judges (result >>= next) line fun problem => Fault problem ∨ NextFault problem where
  fault_of_error := by
    intro error failed
    rcases bind_eq_error_iff.mp failed with failed | ⟨checked, succeeded, failed⟩
    · obtain ⟨sameLine, fault⟩ := judges.fault_of_error error failed
      exact ⟨sameLine, .inl fault⟩
    · obtain ⟨sameLine, fault⟩ := (nextJudges checked succeeded).fault_of_error error failed
      exact ⟨sameLine, .inr fault⟩
  faultless_of_ok := by
    intro value made problem
    obtain ⟨checked, succeeded, made⟩ := bind_eq_ok_iff.mp made
    rintro (fault | fault)
    · exact judges.faultless_of_ok checked succeeded problem fault
    · exact (nextJudges checked succeeded).faultless_of_ok value made problem fault

namespace LetterList

variable {list : LetterList} {line : Nat}

/-- As many different letters as there are facets name all of them. -/
theorem perm_of_nodup
    (distinct : (list.letters.map LetterToken.facet).Nodup)
    (enough : Facet.all.length ≤ list.letters.length) :
    (list.letters.map LetterToken.facet).Perm Facet.all := by
  refine (List.subperm_of_subset distinct fun facet _ => facet.mem_all).perm_of_length_le ?_
  rw [List.length_map]
  exact enough

/-- Letters are without fault when they name each of the facets once. -/
theorem faultless_iff_perm :
    (∀ problem, ¬ list.Fault problem) ↔
      (list.letters.map LetterToken.facet).Perm Facet.all := by
  constructor
  · intro faultless
    refine perm_of_nodup ?_ (Nat.le_of_not_lt fun shorter => faultless _ (.tooFew shorter))
    exact List.nodup_iff_forall_not_duplicate.mpr fun facet twice =>
      faultless _ (.repeated twice)
  · intro all problem fault
    have sameLength := all.length_eq
    rw [List.length_map] at sameLength
    cases fault with
    | tooMany longer => exact absurd sameLength (Nat.ne_of_gt longer)
    | tooFew shorter => exact absurd sameLength (Nat.ne_of_lt shorter)
    | repeated twice => exact twice.not_nodup (all.nodup_iff.mpr Facet.nodup_all)

theorem fault_of_precedence_eq_error
    {error : RuleError}
    (failed : list.precedence line = .error error) :
    error.line = line ∧ list.Fault error.problem := by
  unfold precedence at failed
  dsimp only at failed
  split at failed
  · rename_i longer
    cases failed
    exact ⟨rfl, .tooMany longer⟩
  · rename_i notLonger
    split at failed
    · rename_i token repeated
      cases failed
      exact ⟨rfl, .repeated (duplicate_of_firstRepeat? repeated)⟩
    · rename_i unrepeated
      have distinct := firstRepeat?_eq_none_iff.mp unrepeated
      split at failed
      · cases failed
      · rename_i incomplete
        cases failed
        refine ⟨rfl, .tooFew ?_⟩
        by_contra notShorter
        have all := perm_of_nodup distinct (Nat.le_of_not_lt notShorter)
        have made : Precedence.ofList? _ = some ⟨_, distinct, fun _ => all.mem_iff.mpr⟩ :=
          Precedence.ofList?_eq_some_iff.mpr rfl
        rw [made] at incomplete
        cases incomplete

/-- The letters that are accepted are those of the precedence they give. -/
theorem facets_of_precedence_eq_ok
    {order : Precedence}
    (accepted : list.precedence line = .ok order) :
    order.facets = list.letters.map LetterToken.facet := by
  unfold precedence at accepted
  dsimp only at accepted
  split at accepted
  · cases accepted
  · split at accepted
    · cases accepted
    · split at accepted
      · rename_i made
        cases accepted
        exact Precedence.ofList?_eq_some_iff.mp made
      · cases accepted

/-- Letters are accepted unless they fail to name each of the facets once. -/
theorem judges_precedence (list : LetterList) (line : Nat) :
    Judges (list.precedence line) line list.Fault where
  fault_of_error := fun error failed => fault_of_precedence_eq_error failed
  faultless_of_ok := by
    intro order accepted problem fault
    have all : (list.letters.map LetterToken.facet).Perm Facet.all :=
      facets_of_precedence_eq_ok accepted ▸ order.facets_perm
    exact faultless_iff_perm.mpr all problem fault

end LetterList

namespace PolicyList

/-- A policy list is accepted unless it is empty or assigns a type twice. -/
theorem judges_policies (list : PolicyList) (line : Nat) :
    Judges (list.policies line) line list.Fault where
  fault_of_error := by
    intro error failed
    unfold policies at failed
    split at failed
    · rename_i empty
      cases failed
      exact ⟨rfl, .missing (List.isEmpty_iff.mp empty)⟩
    · split at failed
      · rename_i token repeated
        cases failed
        exact ⟨rfl, .repeated (duplicate_of_firstRepeat? repeated)⟩
      · cases failed
  faultless_of_ok := by
    intro assigned accepted problem fault
    obtain ⟨filled, distinct, -⟩ := policies_eq_ok_iff.mp accepted
    cases fault with
    | missing nothing => exact filled nothing
    | repeated twice => exact twice.not_nodup distinct

end PolicyList

namespace RankingItem

variable {line : Nat} {seen : List RankingKeyKind} {items : List RankingItem}

theorem kind_of_key_eq_ok
    {item : RankingItem}
    {key : RankingKey}
    (made : item.key line = .ok key) :
    key.kind = item.keyKind := by
  rcases item with ⟨column, kind⟩
  cases kind with
  | letters list =>
      obtain ⟨order, -, rfl⟩ := map_eq_ok_iff.mp made
      rfl
  | precedence list =>
      obtain ⟨order, -, rfl⟩ := map_eq_ok_iff.mp made
      rfl
  | criteriaCount =>
      cases made
      rfl
  | line preference =>
      cases made
      rfl

/-- An item is accepted unless its letters have a fault. -/
theorem judges_key (item : RankingItem) (line : Nat) :
    Judges (item.key line) line fun problem =>
      ∃ list, item.letters? = some list ∧ list.Fault problem := by
  rcases item with ⟨column, kind⟩
  cases kind with
  | letters list | precedence list =>
      have judges := (list.judges_precedence line).map RankingKey.precedence
      simpa [letters?, key] using judges
  | criteriaCount | line preference =>
      exact ⟨by simp [key], by simp [letters?]⟩

/-- All but the last of a list with a further element in front. -/
theorem mem_dropLast_cons_iff {item other : RankingItem} {rest : List RankingItem} :
    other ∈ (item :: rest).dropLast ↔
      rest ≠ [] ∧ other = item ∨ other ∈ rest.dropLast := by
  cases rest with
  | nil => simp
  | cons next rest => simp

/--
The keys of a line are accepted when each is, no two are of one kind, and only
the last is a line preference.
-/
theorem keysAfter_eq_ok_iff {keys : List RankingKey} :
    keysAfter line seen items = .ok keys ↔
      List.Forall₂ (fun item key => item.key line = .ok key) items keys ∧
        (items.map keyKind).Nodup ∧
          (∀ item ∈ items, item.keyKind ∉ seen) ∧
            ∀ item ∈ items.dropLast, item.keyKind ≠ .line := by
  induction items generalizing seen keys with
  | nil => simp [keysAfter, eq_comm]
  | cons item rest inductionHypothesis =>
      simp only [keysAfter, bind_eq_ok_iff, List.forall₂_cons_left_iff, List.map_cons,
        List.nodup_cons, List.forall_mem_cons, mem_dropLast_cons_iff]
      constructor
      · rintro ⟨key, made, read⟩
        rw [kind_of_key_eq_ok made] at read
        split at read
        · cases read
        · rename_i fresh
          split at read
          · cases read
          · rename_i placed
            obtain ⟨others, restRead, same⟩ := bind_eq_ok_iff.mp read
            cases same
            obtain ⟨restMade, distinct, restFresh, restPlaced⟩ :=
              inductionHypothesis.mp restRead
            refine ⟨⟨key, others, made, restMade, rfl⟩, ⟨?_, distinct⟩, ⟨fresh, ?_⟩, ?_⟩
            · intro listed
              obtain ⟨other, member, sameKind⟩ := List.mem_map.mp listed
              exact restFresh other member (sameKind ▸ List.mem_cons_self)
            · intro other member before
              exact restFresh other member (List.mem_cons_of_mem _ before)
            · rintro other (⟨further, rfl⟩ | later)
              · exact fun isLine => placed ⟨isLine, further⟩
              · exact restPlaced other later
      · rintro ⟨⟨key, others, made, restMade, rfl⟩, ⟨apart, distinct⟩, ⟨fresh, restFresh⟩,
          placed⟩
        refine ⟨key, made, ?_⟩
        have keepsOut : ¬ (item.keyKind = .line ∧ rest ≠ []) :=
          fun ⟨isLine, further⟩ => placed item (.inl ⟨further, rfl⟩) isLine
        rw [kind_of_key_eq_ok made, if_neg fresh, if_neg keepsOut]
        refine bind_eq_ok_iff.mpr ⟨others, inductionHypothesis.mpr ⟨restMade, distinct, ?_, ?_⟩, rfl⟩
        · intro other member before
          rcases List.mem_cons.mp before with same | before
          · exact apart (List.mem_map.mpr ⟨other, member, same⟩)
          · exact restFresh other member before
        · exact fun other later => placed other (.inr later)

/-- A fault among later items is a fault among all. -/
theorem Fault.cons
    {problem : RuleProblem}
    (fault : Fault items problem)
    (item : RankingItem) :
    Fault (item :: items) problem := by
  cases fault with
  | letters member lists fault => exact .letters (List.mem_cons_of_mem _ member) lists fault
  | repeatedKey twice => exact .repeatedKey (twice.duplicate_cons _)
  | lineKeyNotLast member isLine =>
      exact .lineKeyNotLast (mem_dropLast_cons_iff.mpr (.inr member)) isLine

theorem fault_of_keysAfter_eq_error
    {error : RuleError}
    (failed : keysAfter line seen items = .error error) :
    error.line = line ∧
      (Fault items error.problem ∨
        error.problem = .repeatedRankingKey ∧ ∃ kind ∈ items.map keyKind, kind ∈ seen) := by
  induction items generalizing seen with
  | nil => cases failed
  | cons item rest inductionHypothesis =>
      unfold keysAfter at failed
      rcases bind_eq_error_iff.mp failed with keyFailed | ⟨key, made, failed⟩
      · obtain ⟨sameLine, list, lists, fault⟩ := (item.judges_key line).fault_of_error _ keyFailed
        exact ⟨sameLine, .inl (.letters List.mem_cons_self lists fault)⟩
      · rw [kind_of_key_eq_ok made] at failed
        split at failed
        · rename_i before
          cases failed
          exact ⟨rfl, .inr ⟨rfl, item.keyKind, by simp, before⟩⟩
        · split at failed
          · rename_i misplaced
            cases failed
            have member : item ∈ (item :: rest).dropLast :=
              mem_dropLast_cons_iff.mpr (.inl ⟨misplaced.2, rfl⟩)
            exact ⟨rfl, .inl (.lineKeyNotLast member misplaced.1)⟩
          · rcases bind_eq_error_iff.mp failed with restFailed | ⟨keys, -, made⟩
            · obtain ⟨sameLine, fault | ⟨problem, kind, listed, before⟩⟩ :=
                inductionHypothesis restFailed
              · exact ⟨sameLine, .inl (fault.cons item)⟩
              · rcases List.mem_cons.mp before with rfl | before
                · rw [problem]
                  exact ⟨sameLine, .inl (.repeatedKey (List.Mem.duplicate_cons_self listed))⟩
                · exact ⟨sameLine, .inr ⟨problem, kind, List.mem_cons_of_mem _ listed, before⟩⟩
            · cases made

/-- The items of a ranking line are accepted unless they have a fault. -/
theorem judges_keysAfter (items : List RankingItem) (line : Nat) :
    Judges (keysAfter line [] items) line (Fault items) where
  fault_of_error := by
    intro error failed
    obtain ⟨sameLine, fault | ⟨-, kind, -, before⟩⟩ := fault_of_keysAfter_eq_error failed
    · exact ⟨sameLine, fault⟩
    · exact absurd before List.not_mem_nil
  faultless_of_ok := by
    intro keys read problem fault
    obtain ⟨made, distinct, -, placed⟩ := keysAfter_eq_ok_iff.mp read
    cases fault with
    | letters member lists fault =>
        obtain ⟨key, -, keyMade⟩ := exists_related_of_mem made.flip member
        exact ((RankingItem.judges_key _ line).faultless_of_ok key keyMade _) ⟨_, lists, fault⟩
    | repeatedKey twice => exact twice.not_nodup distinct
    | lineKeyNotLast member isLine => exact placed _ member isLine

end RankingItem

namespace Document

/-- A bare list of letters has no faults but those of the letters. -/
theorem fault_lone_letters_iff
    {column : Nat}
    {list : LetterList}
    {problem : RuleProblem} :
    RankingItem.Fault [⟨column, .letters list⟩] problem ↔ list.Fault problem := by
  constructor
  · intro fault
    cases fault with
    | letters member lists fault =>
        cases List.mem_singleton.mp member
        cases lists
        exact fault
    | repeatedKey twice => exact absurd (List.nodup_singleton _) twice.not_nodup
    | lineKeyNotLast member => cases member
  · exact fun fault => .letters List.mem_cons_self rfl fault

/-- The ranking line is accepted unless its items have a fault. -/
theorem judges_ranking (document : Document) :
    Judges document.ranking document.rankingLine
      (RankingItem.Fault document.rankingItems) := by
  unfold ranking
  split
  · rename_i column list items
    have same : RankingItem.Fault [⟨column, .letters list⟩] = list.Fault :=
      funext fun problem => propext fault_lone_letters_iff
    rw [items, same]
    exact (list.judges_precedence _).map Ranking.ofPrecedence
  · exact (RankingItem.judges_keysAfter _ _).map Ranking.ofKeys

end Document

namespace CriterionToken

variable {line : Nat} {tokens : List CriterionToken} {inherited : List Criterion}

theorem fault_of_criterion_eq_error
    {token : CriterionToken}
    {error : RuleError}
    (failed : token.criterion line = .error error) :
    error.line = line ∧ error.problem = .mixedNegation ∧ ¬ token.Uniform := by
  have mixed : ¬ token.Uniform := by
    intro uniform
    rw [criterion_eq_ok_iff.mpr ⟨uniform, rfl⟩] at failed
    cases failed
  unfold criterion at failed
  split at failed
  · cases failed
  · dsimp only at failed
    split at failed
    · cases failed
      exact ⟨rfl, rfl, mixed⟩
    · cases failed

/--
What keeps the criteria of a line from being added to inherited ones: a facet
that is constrained twice, or names that mix negated and plain ones.
-/
inductive ExtensionFault
    (inherited : List Criterion)
    (tokens : List CriterionToken) : RuleProblem → Prop
  | repeatedOnLine
      {facet : Facet}
      (twice : List.Duplicate facet (tokens.map CriterionToken.facet)) :
      ExtensionFault inherited tokens (.repeatedFacet facet)
  | repeatedInside
      {facet : Facet}
      (here : facet ∈ tokens.map CriterionToken.facet)
      (there : facet ∈ inherited.map Criterion.facet) :
      ExtensionFault inherited tokens (.repeatedFacet facet)
  | mixedNegation
      {token : CriterionToken}
      (member : token ∈ tokens)
      (mixed : ¬ token.Uniform) :
      ExtensionFault inherited tokens .mixedNegation

theorem fault_of_extend_eq_error
    {error : RuleError}
    (failed : extend line inherited tokens = .error error) :
    error.line = line ∧ ExtensionFault inherited tokens error.problem := by
  induction tokens generalizing inherited with
  | nil => cases failed
  | cons token rest inductionHypothesis =>
      unfold extend at failed
      split at failed
      · rename_i before
        cases failed
        obtain ⟨criterion, member, same⟩ := List.any_eq_true.mp before
        refine ⟨rfl, .repeatedInside (by simp) ?_⟩
        exact List.mem_map.mpr ⟨criterion, member, of_decide_eq_true same⟩
      · rcases bind_eq_error_iff.mp failed with tokenFailed | ⟨criterion, made, restFailed⟩
        · obtain ⟨sameLine, problem, mixed⟩ := fault_of_criterion_eq_error tokenFailed
          rw [problem]
          exact ⟨sameLine, .mixedNegation List.mem_cons_self mixed⟩
        · obtain ⟨-, rfl⟩ := criterion_eq_ok_iff.mp made
          obtain ⟨sameLine, fault⟩ := inductionHypothesis restFailed
          refine ⟨sameLine, ?_⟩
          generalize error.problem = problem at fault
          cases fault with
          | repeatedOnLine twice => exact .repeatedOnLine (twice.duplicate_cons _)
          | repeatedInside here there =>
              rw [List.map_append] at there
              rcases List.mem_append.mp there with old | new
              · exact .repeatedInside (List.mem_cons_of_mem _ here) old
              · cases List.mem_singleton.mp new
                exact .repeatedOnLine (List.Mem.duplicate_cons_self here)
          | mixedNegation member mixed =>
              exact .mixedNegation (List.mem_cons_of_mem _ member) mixed

/-- The criteria of a line are added to inherited ones unless that is a fault. -/
theorem judges_extend
    (line : Nat)
    (inherited : List Criterion)
    (tokens : List CriterionToken) :
    Judges (extend line inherited tokens) line (ExtensionFault inherited tokens) where
  fault_of_error := fun error failed => fault_of_extend_eq_error failed
  faultless_of_ok := by
    intro criteria extended problem fault
    obtain ⟨uniform, distinct, fresh, -⟩ := extend_eq_ok_iff.mp extended
    cases fault with
    | repeatedOnLine twice => exact twice.not_nodup distinct
    | repeatedInside here there =>
        obtain ⟨token, tokenMember, rfl⟩ := List.mem_map.mp here
        obtain ⟨criterion, member, same⟩ := List.mem_map.mp there
        exact fresh token tokenMember criterion member same
    | mixedNegation member mixed => exact mixed (uniform _ member)

end CriterionToken

end LendingRules
