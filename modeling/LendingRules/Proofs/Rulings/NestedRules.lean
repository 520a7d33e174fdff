import LendingRules.Proofs.Rulings.Specificity
import LendingRules.Proofs.Writing.FlatText
import Mathlib.Logic.Relation

namespace LendingRules

/-!
# Nested rules refine the rules around them

However many lines lie in between, the rule on a line that is indented under another
has all the criteria of the rule on that line, and further ones on other facets. So it
decides fewer requests, and a ranking puts it first: by its facets, or, when lines are
all that counts, because it stands on the later one. Only where the first line wins
may a rule shadow those nested in it.
-/

/--
One entry stands right under another, both given by their positions: the other is the
nearest earlier one that is indented less.
-/
structure StandsUnder (entries : List Entry) (outer inner : Nat) : Prop where
  earlier : outer < inner
  shallower : ∃ outerEntry innerEntry,
    entries[outer]? = some outerEntry ∧ entries[inner]? = some innerEntry ∧
      outerEntry.indent < innerEntry.indent
  nearest : ∀ between betweenEntry innerEntry,
    outer < between → between < inner →
      entries[between]? = some betweenEntry → entries[inner]? = some innerEntry →
        innerEntry.indent ≤ betweenEntry.indent

/-- One entry is nested in another, directly or through entries in between. -/
abbrev NestedIn (entries : List Entry) : Nat → Nat → Prop :=
  Relation.TransGen (StandsUnder entries)

section Nested

variable {entries : List Entry} {outer inner : Nat} {outerEntry innerEntry : Entry}

/-- An entry that another stands under encloses it, unless it is the fallback. -/
theorem StandsUnder.encloses
    (under : StandsUnder entries outer inner)
    (stands : entries[outer]? = some outerEntry)
    (ordinary : outerEntry.isFallback = false) :
    Encloses entries outer inner where
  earlier := under.earlier
  shallower := by
    obtain ⟨shallowEntry, innerEntry, shallowStands, innerStands, shallower⟩ := under.shallower
    cases stands.symm.trans shallowStands
    exact ⟨outerEntry, innerEntry, stands, innerStands, shallower, ordinary⟩
  nearest := under.nearest

/-- An entry stands under the one right before it when that one is indented less. -/
theorem StandsUnder.of_next
    (outerStands : entries[outer]? = some outerEntry)
    (innerStands : entries[outer + 1]? = some innerEntry)
    (shallower : outerEntry.indent < innerEntry.indent) :
    StandsUnder entries outer (outer + 1) where
  earlier := Nat.lt_succ_self outer
  shallower := ⟨outerEntry, innerEntry, outerStands, innerStands, shallower⟩
  nearest := fun _ _ _ after before => absurd before (Nat.not_lt_of_le after)

theorem NestedIn.earlier (nested : NestedIn entries outer inner) : outer < inner := by
  induction nested with
  | single under => exact under.earlier
  | tail _ under inductionHypothesis => exact Nat.lt_trans inductionHypothesis under.earlier

/-- A nested entry is indented, and so it is not the fallback. -/
theorem NestedIn.ordinary
    (unindented : ∀ entry ∈ entries, entry.isFallback = true → entry.indent = 0)
    (nested : NestedIn entries outer inner)
    (stands : entries[inner]? = some innerEntry) :
    innerEntry.isFallback = false := by
  obtain ⟨around, under⟩ : ∃ around, StandsUnder entries around inner := by
    cases nested with
    | single under => exact ⟨outer, under⟩
    | tail _ under => exact ⟨_, under⟩
  obtain ⟨aroundEntry, deepEntry, -, deepStands, shallower⟩ := under.shallower
  cases stands.symm.trans deepStands
  cases marked : innerEntry.isFallback with
  | false => rfl
  | true =>
      have outermost := unindented innerEntry (List.mem_of_getElem? stands) marked
      omega

/-- An entry that is not the fallback is among the enclosers of all entries nested in it. -/
theorem NestedIn.exists_enclosers
    (unindented : ∀ entry ∈ entries, entry.isFallback = true → entry.indent = 0)
    (nested : NestedIn entries outer inner)
    (stands : entries[outer]? = some outerEntry)
    (ordinary : outerEntry.isFallback = false)
    {chain : List Nat}
    (enclosers : Enclosers entries inner chain) :
    ∃ around between, Enclosers entries outer around ∧ chain = around ++ outer :: between := by
  induction nested generalizing chain with
  | single under =>
      have encloses := under.encloses stands ordinary
      cases enclosers with
      | none unenclosed => exact absurd encloses (unenclosed _)
      | inside otherEncloses around =>
          cases encloses.unique otherEncloses
          exact ⟨_, [], around, rfl⟩
  | @tail middle inner within under inductionHypothesis =>
      obtain ⟨middleEntry, -, middleStands, -, -⟩ := under.shallower
      have encloses :=
        under.encloses middleStands (NestedIn.ordinary unindented within middleStands)
      cases enclosers with
      | none unenclosed => exact absurd encloses (unenclosed _)
      | inside otherEncloses chainAround =>
          cases encloses.unique otherEncloses
          obtain ⟨around, between, enclosers, rfl⟩ := inductionHypothesis chainAround
          exact ⟨around, between ++ [middle], enclosers, by simp⟩

end Nested

/-- No fallback that is taken in is indented. -/
theorem Nesting.unindented_of_addAll
    {nesting last : Nesting}
    {entries : List Entry}
    {rules : List Rule}
    (added : nesting.addAll entries = .ok (rules, last)) :
    ∀ entry ∈ entries, entry.isFallback = true → entry.indent = 0 := by
  induction entries generalizing nesting rules with
  | nil => simp
  | cons entry rest inductionHypothesis =>
      obtain ⟨rule?, next, others, entryAdded, restAdded, -⟩ := addAll_cons_eq_ok_iff.mp added
      refine List.forall_mem_cons.mpr ⟨?_, inductionHypothesis restAdded⟩
      rcases entry with ⟨line, indent, clause⟩
      intro marked
      cases clause with
      | fallback list => exact (add_fallback_eq_ok_iff.mp entryAdded).1
      | criteria tokens list? => cases marked

namespace Flattened

variable {entries : List Entry} {position : Nat} {rule : Rule}

/-- A rule stands on the line of its entry, and is the fallback if its entry is. -/
theorem exists_entry (flattened : Flattened entries position rule) :
    ∃ entry, entries[position]? = some entry ∧ entry.line = rule.line ∧
      entry.isFallback = rule.isFallback := by
  cases flattened with
  | fallback stands assigns => exact ⟨_, stands, rfl, rfl⟩
  | allOf stands enclosers assigns => exact ⟨_, stands, rfl, rfl⟩

/-- A rule has the criteria of all enclosers of its entry and of the entry itself. -/
theorem criteria_eq
    (flattened : Flattened entries position rule)
    (ordinary : rule.isFallback = false)
    {chain : List Nat}
    (enclosers : Enclosers entries position chain) :
    rule.criteria = (chain ++ [position]).flatMap (criteriaAt entries) := by
  cases flattened with
  | fallback => cases ordinary
  | allOf stands otherEnclosers assigns =>
      rw [enclosers.unique otherEnclosers]
      rfl

/-- The rule of a nested entry has all criteria of the rule around it and its own behind them. -/
theorem exists_criteria_append
    (unindented : ∀ entry ∈ entries, entry.isFallback = true → entry.indent = 0)
    (filled : ∀ entry ∈ entries, entry.IsFilled)
    {outer inner : Nat}
    {outerRule innerRule : Rule}
    (nested : NestedIn entries outer inner)
    (outerFlattened : Flattened entries outer outerRule)
    (innerFlattened : Flattened entries inner innerRule)
    (ordinary : outerRule.isFallback = false) :
    ∃ further, further ≠ [] ∧ innerRule.criteria = outerRule.criteria ++ further := by
  obtain ⟨outerEntry, outerStands, -, outerKind⟩ := outerFlattened.exists_entry
  cases innerFlattened with
  | fallback innerStands assigns => cases nested.ordinary unindented innerStands
  | @allOf line indent tokens list policies chain innerStands enclosers assigns =>
      obtain ⟨around, between, outerEnclosers, rfl⟩ :=
        nested.exists_enclosers unindented outerStands (outerKind.trans ordinary) enclosers
      refine ⟨(between ++ [inner]).flatMap (criteriaAt entries), ?_, ?_⟩
      · have own : tokens ≠ [] :=
          filled _ (List.mem_of_getElem? innerStands) tokens (some list) rfl
        simp [criteriaAt, innerStands, Entry.criteria, own]
      · rw [outerFlattened.criteria_eq ordinary outerEnclosers]
        simp [Rule.criteria]

end Flattened

/-- Further criteria make a rule more specific when no facet is repeated. -/
theorem Rule.moreSpecific_of_append
    {first second : Rule}
    {further : List Criterion}
    (extended : first.criteria = second.criteria ++ further)
    (present : further ≠ [])
    (distinct : (first.criteria.map Criterion.facet).Nodup) :
    first.MoreSpecific second where
  included := by
    rintro facet ⟨criterion, member, same⟩
    exact ⟨criterion, extended ▸ List.mem_append_left _ member, same⟩
  extra := by
    obtain ⟨own, ownMember⟩ := List.exists_mem_of_ne_nil _ present
    rw [extended, List.map_append, List.nodup_append] at distinct
    refine ⟨own.facet, ⟨own, extended ▸ List.mem_append_right _ ownMember, rfl⟩, ?_⟩
    rintro ⟨criterion, member, same⟩
    exact distinct.2.2 _ (List.mem_map_of_mem member) _ (List.mem_map_of_mem ownMember) same

/-- A ranking without repeated kinds that goes by lines has no other key. -/
theorem Ranking.keys_of_goesByLine
    {ranking : Ranking}
    (distinct : (ranking.keys.map RankingKey.kind).Nodup)
    (goesByLine : ranking.GoesByLine) :
    ranking.keys = [.line ranking.final] := by
  obtain ⟨preference, first⟩ := goesByLine
  unfold keys at distinct first ⊢
  cases shape : ranking.leading with
  | nil => rfl
  | cons key others =>
      rw [shape] at distinct first
      cases first
      simp [RankingKey.kind] at distinct

/-- A rule nested in another comes before it, unless the first line wins. -/
theorem Ranking.compare_of_nested
    {ranking : Ranking}
    {outer inner : Rule}
    (distinctKinds : (ranking.keys.map RankingKey.kind).Nodup)
    (ranked : ranking.keys ≠ [.line .firstLine])
    (distinct : (outer.criteria.map Criterion.facet).Nodup)
    (below : outer.line < inner.line)
    (more : inner.MoreSpecific outer) :
    ranking.compare inner outer = .lt := by
  by_cases goesByLine : ranking.GoesByLine
  · have only := keys_of_goesByLine distinctKinds goesByLine
    refine compare_eq_lt_of_head only more.ordinary ?_
    cases preferred : ranking.final with
    | firstLine => exact absurd (preferred ▸ only) ranked
    | lastLine => exact Nat.compare_eq_lt.mpr below
  · exact compare_of_moreSpecific more distinct goesByLine

namespace Document

variable {text : String} {document : Document} {rules : List Rule}

/-- Whether the entry on one line of a document is nested in the entry on another line. -/
def Nests (document : Document) (outerLine innerLine : Nat) : Prop :=
  ∃ outer inner, NestedIn document.entries outer inner ∧
    document.entries[outer]?.map Entry.line = some outerLine ∧
      document.entries[inner]?.map Entry.line = some innerLine

/-- Each rule of a document is the one that the entry on its line gives. -/
theorem flattened_of_line
    (read : Document.ofText text = .ok document)
    (resolved : document.rules = .ok rules)
    {rule : Rule}
    (member : rule ∈ rules)
    {position : Nat}
    (onLine : document.entries[position]?.map Entry.line = some rule.line) :
    Flattened document.entries position rule := by
  obtain ⟨last, added, -, -⟩ := Document.rules_eq_ok_iff.mp resolved
  have all := Nesting.tracks_start.flattened_addAll added
  obtain ⟨place, -, flattened⟩ := exists_related_of_mem all member
  obtain ⟨entry, stands, sameLine, -⟩ := flattened.exists_entry
  have apart : (document.entries.map Entry.line).Nodup :=
    List.pairwise_map.mpr ((Document.pairwise_entries read).imp Nat.ne_of_lt)
  have inRange : place < (document.entries.map Entry.line).length := by
    rw [List.length_map]
    exact (List.getElem?_eq_some_iff.mp stands).1
  have samePlace : place = position := by
    refine (List.getElem?_inj inRange apart).mp ?_
    rw [List.getElem?_map, List.getElem?_map, onLine]
    simp only [List.reverse_nil, List.nil_append] at stands
    rw [stands, Option.map_some, sameLine]
  exact samePlace ▸ flattened

/--
A nested rule has the criteria of the rule around it, and comes before it unless the
first line wins.
-/
theorem refines_of_nests
    {ranking : Ranking}
    (read : Document.ofText text = .ok document)
    (declared : document.ranking = .ok ranking)
    (resolved : document.rules = .ok rules)
    (ranked : ranking.keys ≠ [.line .firstLine])
    {outer inner : Rule}
    (outerMember : outer ∈ rules)
    (innerMember : inner ∈ rules)
    (nests : document.Nests outer.line inner.line) :
    outer.criteria ⊆ inner.criteria ∧ ranking.compare inner outer = .lt := by
  obtain ⟨outerPlace, innerPlace, nested, outerOnLine, innerOnLine⟩ := nests
  have outerFlattened := flattened_of_line read resolved outerMember outerOnLine
  have innerFlattened := flattened_of_line read resolved innerMember innerOnLine
  obtain ⟨last, added, -, -⟩ := Document.rules_eq_ok_iff.mp resolved
  have unindented := Nesting.unindented_of_addAll added
  have filled : ∀ entry ∈ document.entries, entry.IsFilled := fun entry member =>
    Entry.isFilled_of_standsIn (Document.entry_standsIn read member)
  obtain ⟨outerEntry, outerStands, outerLine, outerKind⟩ := outerFlattened.exists_entry
  obtain ⟨innerEntry, innerStands, innerLine, innerKind⟩ := innerFlattened.exists_entry
  cases marked : outer.isFallback with
  | true =>
      have ordinary : inner.isFallback = false :=
        innerKind.symm.trans (nested.ordinary unindented innerStands)
      rw [Rule.criteria_of_isFallback marked]
      exact ⟨List.nil_subset _, Ranking.compare_fallback ordinary marked⟩
  | false =>
      obtain ⟨further, present, extended⟩ :=
        outerFlattened.exists_criteria_append unindented filled nested innerFlattened marked
      have proper := Document.proper_of_rules read resolved
      have more : inner.MoreSpecific outer :=
        Rule.moreSpecific_of_append extended present (proper inner innerMember).distinct
      have below : outer.line < inner.line := by
        rw [← outerLine, ← innerLine]
        obtain ⟨outerInRange, rfl⟩ := List.getElem?_eq_some_iff.mp outerStands
        obtain ⟨innerInRange, rfl⟩ := List.getElem?_eq_some_iff.mp innerStands
        exact List.pairwise_iff_getElem.mp (Document.pairwise_entries read) _ _ outerInRange
          innerInRange nested.earlier
      refine ⟨extended ▸ List.subset_append_left _ _, ?_⟩
      exact Ranking.compare_of_nested (nodup_kinds_of_ranking declared) ranked
        (proper outer outerMember).distinct below more

end Document

namespace Rulebook

/--
Unless the first line wins, a rule that is nested in another one refines it: whatever
matches the nested rule matches the rule around it, and wherever the nested rule
appears among the rulings of a type that both assign, the rule around it appears
behind it.
-/
theorem nested_rules_refine
    {text : String}
    {rulebook : Rulebook}
    {document : Document}
    (made : Rulebook.ofText text = .ok rulebook)
    (read : Document.ofText text = .ok document)
    (ranked : rulebook.ranking.keys ≠ [.line .firstLine])
    {outer inner : Rule}
    (outerMember : outer ∈ rulebook.rules)
    (innerMember : inner ∈ rulebook.rules)
    (nests : document.Nests outer.line inner.line) :
    (∀ request, matchesRule request inner = true → matchesRule request outer = true) ∧
      ∀ request type innerPlace,
        outer.policies.assigns type = true →
          rulebook.AppearsAt request type inner innerPlace →
            ∃ outerPlace, rulebook.AppearsAt request type outer outerPlace ∧
              innerPlace < outerPlace := by
  obtain ⟨document, ranking, rules, readAgain, declared, resolved, rfl⟩ :=
    ofText_eq_ok_iff.mp made
  cases read.symm.trans readAgain
  obtain ⟨included, before⟩ :=
    Document.refines_of_nests read declared resolved ranked outerMember innerMember nests
  have made := Made.ofText made
  constructor
  · intro request
    rw [matchesRule_eq_holds, matchesRule_eq_holds, Rule.holds, Rule.holds, List.all_eq_true,
      List.all_eq_true]
    exact fun accepted criterion member => accepted criterion (included member)
  · intro request type innerPlace assigned innerAppears
    have candidate := List.mem_of_getElem? ((made.appearsAt_iff innerMember).mp innerAppears)
    obtain ⟨-, -, accepted⟩ := made.mem_candidates.mp candidate
    have decides : outer.Decides request type :=
      ⟨assigned, fun criterion member => accepted criterion (included member)⟩
    obtain ⟨outerPlace, outerAppears⟩ := made.exists_appearsAt outerMember decides
    exact ⟨outerPlace, outerAppears,
      made.place_lt_of_compare innerMember outerMember before innerAppears outerAppears⟩

/-- A rule on books, a header for adults below it, and a rule on short loans below that. -/
def studyText : String :=
  "priority: last-line\nfallback-policy: l standard\nm book: l reading\n  g adult\n" ++
    "    t short: l brief\n"

/-- What the text reads as. -/
def studyDocument : Document where
  rankingLine := 1
  rankingItems := [⟨11, .line .lastLine⟩]
  entries :=
    [⟨2, 0, .fallback ⟨16, [⟨.loan, "standard", 18⟩]⟩⟩,
      ⟨3, 0, .criteria [⟨.materialType, 1, [⟨"book", false, 3⟩]⟩]
        (some ⟨7, [⟨.loan, "reading", 9⟩]⟩)⟩,
      ⟨4, 2, .criteria [⟨.patronGroup, 3, [⟨"adult", false, 5⟩]⟩] none⟩,
      ⟨5, 4, .criteria [⟨.loanType, 5, [⟨"short", false, 7⟩]⟩]
        (some ⟨12, [⟨.loan, "brief", 14⟩]⟩)⟩]

/-- The rule on the last line of the text. -/
def briefRule : Rule :=
  ⟨.allOf [⟨.materialType, .oneOf ["book"]⟩, ⟨.patronGroup, .oneOf ["adult"]⟩,
    ⟨.loanType, .oneOf ["short"]⟩], .ofPairs [(.loan, "brief")], 5⟩

/-- The rule on short loans comes before the rule on books, to which a header leads back. -/
theorem brief_refines_reading :
    ∃ rulebook,
      Rulebook.ofText studyText = .ok rulebook ∧ Document.ofText studyText = .ok studyDocument ∧
        rulebook.ranking.keys ≠ [.line .firstLine] ∧
        readingRule ∈ rulebook.rules ∧ briefRule ∈ rulebook.rules ∧
        studyDocument.Nests readingRule.line briefRule.line ∧
        ∃ briefPlace readingPlace,
          rulebook.AppearsAt bookForAdult .loan briefRule briefPlace ∧
            rulebook.AppearsAt bookForAdult .loan readingRule readingPlace ∧
              briefPlace < readingPlace := by
  have read : Document.ofText studyText = .ok studyDocument := by decide +kernel
  have declared : studyDocument.ranking = .ok ⟨[], .lastLine⟩ := by decide +kernel
  have resolved :
      studyDocument.rules =
        .ok [⟨.fallback, .ofPairs [(.loan, "standard")], 2⟩, readingRule, briefRule] := by
    decide +kernel
  have made := ofText_eq_ok_iff.mpr ⟨_, _, _, read, declared, resolved, rfl⟩
  have nests : studyDocument.Nests readingRule.line briefRule.line := by
    have headerUnder : StandsUnder studyDocument.entries 1 2 := .of_next rfl rfl (by decide)
    have briefUnder : StandsUnder studyDocument.entries 2 3 := .of_next rfl rfl (by decide)
    exact ⟨1, 3, .tail (.single headerUnder) briefUnder, rfl, rfl⟩
  have ranked : Ranking.keys ⟨[], .lastLine⟩ ≠ [.line .firstLine] := by decide
  obtain ⟨-, precedes⟩ := nested_rules_refine made read ranked (by decide) (by decide) nests
  obtain ⟨briefPlace, briefAppears⟩ :=
    (Made.ofText made).exists_appearsAt (by decide : briefRule ∈ _)
      (by decide : briefRule.Decides bookForAdult .loan)
  obtain ⟨readingPlace, readingAppears, before⟩ :=
    precedes bookForAdult .loan briefPlace (by decide) briefAppears
  exact ⟨_, made, read, ranked, by decide, by decide, nests, briefPlace, readingPlace,
    briefAppears, readingAppears, before⟩

end Rulebook

end LendingRules
