import LendingRules.Proofs.Reading.Enclosure
import LendingRules.Proofs.Reading.Entries
import LendingRules.Rulebook.OfText

namespace LendingRules

/-!
# Rules say what their nesting says

Resolving indentation keeps a stack of open frames. The frames stand for the
entries that may enclose what comes next, and each holds the criteria of its
entry behind those of all entries around it. So every rule has the criteria of
all its enclosers, outermost first, and then its own.
-/

namespace PolicyList

/-- Policies that are assigned exactly as the tokens of the list say. -/
def Assigns (list : PolicyList) (policies : Policies) : Prop :=
  ∀ type id, policies.get? type = some id ↔
    ∃ token ∈ list.tokens, token.type = type ∧ token.id = id

theorem assigns_meaning
    {list : PolicyList}
    (distinct : (list.tokens.map PolicyToken.type).Nodup) :
    list.Assigns list.meaning := by
  intro type id
  have pairs :
      ((list.tokens.map fun token => (token.type, token.id)).map Prod.fst).Nodup := by
    simpa [List.map_map, Function.comp_def] using distinct
  rw [meaning, Policies.get?_ofPairs pairs]
  simp

end PolicyList

/--
The rule that an entry gives in its place. The fallback gives the fallback; a
line of criteria gives a rule with the criteria of all enclosers, outermost
first, and then its own. Either assigns what its own policy list says and stands
on its own line.
-/
inductive Flattened (entries : List Entry) : Nat → Rule → Prop
  | fallback
      {position line indent : Nat}
      {list : PolicyList}
      {policies : Policies}
      (stands : entries[position]? = some ⟨line, indent, .fallback list⟩)
      (assigns : list.Assigns policies) :
      Flattened entries position ⟨.fallback, policies, line⟩
  | allOf
      {position line indent : Nat}
      {tokens : List CriterionToken}
      {list : PolicyList}
      {policies : Policies}
      {chain : List Nat}
      (stands : entries[position]? = some ⟨line, indent, .criteria tokens (some list)⟩)
      (enclosers : Enclosers entries position chain)
      (assigns : list.Assigns policies) :
      Flattened entries position
        ⟨.allOf ((chain ++ [position]).flatMap (criteriaAt entries)), policies, line⟩

/-- Frames that stand for entries, each with the criteria of all from it outwards. -/
inductive StandFor : List Frame → List Entry → Prop
  | nil : StandFor [] []
  | cons
      {frame : Frame}
      {frames : List Frame}
      {entry : Entry}
      {entries : List Entry}
      (indent : frame.indent = entry.indent)
      (criteria :
        frame.criteria = (entry :: entries).reverse.flatMap Entry.criteria)
      (outer : StandFor frames entries) :
      StandFor (frame :: frames) (entry :: entries)

namespace StandFor

variable {frames : List Frame} {entries : List Entry}

theorem dropWhile
    (standFor : StandFor frames entries)
    (indent : Nat) :
    StandFor (frames.dropWhile fun frame => indent ≤ frame.indent)
      (entries.dropWhile fun entry => indent ≤ entry.indent) := by
  induction standFor with
  | nil => exact .nil
  | cons same criteria outer inductionHypothesis =>
      rename_i frame frames entry entries
      by_cases deep : indent ≤ entry.indent
      · rw [List.dropWhile_cons_of_pos (by simpa [same] using deep),
          List.dropWhile_cons_of_pos (by simpa using deep)]
        exact inductionHypothesis
      · rw [List.dropWhile_cons_of_neg (by simpa [same] using deep),
          List.dropWhile_cons_of_neg (by simpa using deep)]
        exact .cons same criteria outer

theorem markNested (standFor : StandFor frames entries) :
    StandFor (Frame.markNested frames) entries := by
  cases standFor with
  | nil => exact .nil
  | cons same criteria outer => exact .cons same criteria outer

theorem inherited (standFor : StandFor frames entries) :
    Frame.inherited frames = entries.reverse.flatMap Entry.criteria := by
  cases standFor with
  | nil => rfl
  | cons same criteria outer => exact criteria

end StandFor

/-- The entries before a line, latest first, without those that do not enclose it. -/
def enclosing (earlier : List Entry) (indent : Nat) : List Entry :=
  openEntries (earlier.dropWhile fun entry => indent ≤ entry.indent)

namespace Nesting

variable {nesting next last : Nesting} {earlier : List Entry}

/-- The frames stand for the open ones among the entries taken in so far. -/
structure Tracks (nesting : Nesting) (earlier : List Entry) : Prop where
  standFor : StandFor nesting.frames (openEntries earlier)
  unindented : ∀ entry ∈ earlier, entry.isFallback = true → entry.indent = 0

theorem tracks_start : start.Tracks [] where
  standFor := by
    rw [openEntries_nil]
    exact .nil
  unindented := by simp

theorem Tracks.openAt
    (tracks : nesting.Tracks earlier)
    (indent : Nat) :
    StandFor (nesting.openAt indent) (enclosing earlier indent) := by
  rw [enclosing, ← dropWhile_openEntries tracks.unindented]
  exact tracks.standFor.dropWhile indent

/-- Taking in the fallback closes all frames and gives the fallback rule. -/
theorem Tracks.add_fallback
    (tracks : nesting.Tracks earlier)
    {line indent : Nat}
    {list : PolicyList}
    {rule? : Option Rule}
    (added : nesting.add ⟨line, indent, .fallback list⟩ = .ok (rule?, next)) :
    next.Tracks (⟨line, indent, .fallback list⟩ :: earlier) ∧
      ∃ policies, rule? = some ⟨.fallback, policies, line⟩ ∧ list.Assigns policies := by
  obtain ⟨rfl, -, -, policies, accepted, rfl, rfl⟩ := add_fallback_eq_ok_iff.mp added
  obtain ⟨-, distinct, rfl⟩ := PolicyList.policies_eq_ok_iff.mp accepted
  refine ⟨?_, _, rfl, PolicyList.assigns_meaning distinct⟩
  refine ⟨?_, ?_⟩
  · rw [openEntries]
    exact .nil
  · intro entry member fallback
    rcases List.mem_cons.mp member with rfl | old
    · rfl
    · exact tracks.unindented entry old fallback

/-- Taking in a line of criteria adds its own to those of its enclosers. -/
theorem Tracks.add_criteria
    (tracks : nesting.Tracks earlier)
    {line indent : Nat}
    {tokens : List CriterionToken}
    {list? : Option PolicyList}
    {rule? : Option Rule}
    (added : nesting.add ⟨line, indent, .criteria tokens list?⟩ = .ok (rule?, next)) :
    next.Tracks (⟨line, indent, .criteria tokens list?⟩ :: earlier) ∧
      rule? =
        ruleOf?
          ((enclosing earlier indent).reverse.flatMap Entry.criteria ++
            tokens.map CriterionToken.meaning)
          line list? ∧
        ∀ list ∈ list?, list.Assigns list.meaning := by
  obtain ⟨-, criteria, extended, accepted, rfl, rfl⟩ := add_criteria_eq_ok_iff.mp added
  have standFor := tracks.openAt indent
  obtain ⟨-, -, -, rfl⟩ := CriterionToken.extend_eq_ok_iff.mp extended
  rw [standFor.inherited]
  refine ⟨⟨?_, ?_⟩, rfl, ?_⟩
  · rw [openEntries]
    refine .cons rfl ?_ standFor.markNested
    simp [enclosing, Entry.criteria]
  · intro entry member fallback
    rcases List.mem_cons.mp member with rfl | old
    · cases fallback
    · exact tracks.unindented entry old fallback
  · intro list given
    obtain ⟨policies, accepted⟩ := accepted list given
    obtain ⟨-, distinct, -⟩ := PolicyList.policies_eq_ok_iff.mp accepted
    exact PolicyList.assigns_meaning distinct

end Nesting

/-- Whether the entry at a position carries a policy list. -/
def carriesPolicies (entries : List Entry) (position : Nat) : Bool :=
  (entries[position]?.bind Entry.policies?).isSome

/-- The positions of the entries that carry a policy list, in order. -/
def policyPositions (entries : List Entry) : List Nat :=
  (List.range entries.length).filter (carriesPolicies entries)

/-- The chain of enclosers of the entry that comes next has the criteria found open. -/
theorem exists_enclosers_next
    (earlier : List Entry)
    (entry : Entry)
    (rest : List Entry) :
    ∃ chain, Enclosers (earlier.reverse ++ entry :: rest) earlier.length chain ∧
      chain.flatMap (criteriaAt (earlier.reverse ++ entry :: rest)) =
        (enclosing earlier entry.indent).reverse.flatMap Entry.criteria := by
  have stands : (earlier.reverse ++ entry :: rest)[earlier.length]? = some entry := by
    simp
  obtain ⟨chain, enclosers, criteria⟩ := exists_enclosers stands
  have before :
      ((earlier.reverse ++ entry :: rest).take earlier.length).reverse = earlier := by
    simp
  rw [before] at criteria
  exact ⟨chain, enclosers, criteria⟩

/-- Taking in the remaining entries gives a rule for each that carries policies. -/
theorem Nesting.Tracks.flattened_addAll
    {nesting last : Nesting}
    {earlier rest : List Entry}
    {rules : List Rule}
    (tracks : nesting.Tracks earlier)
    (added : nesting.addAll rest = .ok (rules, last)) :
    List.Forall₂ (Flattened (earlier.reverse ++ rest))
      ((List.range' earlier.length rest.length).filter
        (carriesPolicies (earlier.reverse ++ rest)))
      rules := by
  induction rest generalizing nesting earlier rules with
  | nil =>
      simp only [Nesting.addAll, Except.ok.injEq, Prod.mk.injEq] at added
      simp [← added.1]
  | cons entry rest inductionHypothesis =>
      obtain ⟨rule?, next, others, entryAdded, restAdded, rfl⟩ :=
        Nesting.addAll_cons_eq_ok_iff.mp added
      have sameEntries :
          earlier.reverse ++ entry :: rest = (entry :: earlier).reverse ++ rest := by
        simp
      have stands : (earlier.reverse ++ entry :: rest)[earlier.length]? = some entry := by
        simp
      have restFlattened (nextTracks : next.Tracks (entry :: earlier)) :
          List.Forall₂ (Flattened (earlier.reverse ++ entry :: rest))
            ((List.range' (earlier.length + 1) rest.length).filter
              (carriesPolicies (earlier.reverse ++ entry :: rest)))
            others := by
        rw [sameEntries]
        exact inductionHypothesis nextTracks restAdded
      rw [List.length_cons, List.range'_succ]
      rcases entry with ⟨line, indent, clause⟩
      cases clause with
      | fallback list =>
          obtain ⟨nextTracks, policies, rfl, assigns⟩ := tracks.add_fallback entryAdded
          have carries :
              carriesPolicies (earlier.reverse ++ ⟨line, indent, .fallback list⟩ :: rest)
                earlier.length = true := by
            rw [carriesPolicies, stands]
            rfl
          rw [List.filter_cons_of_pos carries]
          exact .cons (.fallback stands assigns) (restFlattened nextTracks)
      | criteria tokens list? =>
          obtain ⟨nextTracks, rfl, assigns⟩ := tracks.add_criteria entryAdded
          cases list? with
          | none =>
              have headerOnly :
                  ¬ carriesPolicies
                    (earlier.reverse ++ ⟨line, indent, .criteria tokens none⟩ :: rest)
                    earlier.length = true := by
                rw [carriesPolicies, stands]
                simp [Entry.policies?]
              rw [List.filter_cons_of_neg headerOnly]
              exact restFlattened nextTracks
          | some list =>
              have carries :
                  carriesPolicies
                    (earlier.reverse ++ ⟨line, indent, .criteria tokens (some list)⟩ :: rest)
                    earlier.length = true := by
                rw [carriesPolicies, stands]
                rfl
              rw [List.filter_cons_of_pos carries]
              obtain ⟨chain, enclosers, criteria⟩ :=
                exists_enclosers_next earlier ⟨line, indent, .criteria tokens (some list)⟩ rest
              have flattened := Flattened.allOf stands enclosers (assigns list rfl)
              rw [List.flatMap_append, criteria] at flattened
              simp only [List.flatMap_cons, List.flatMap_nil, List.append_nil, criteriaAt,
                stands, Option.elim_some] at flattened
              exact .cons flattened (restFlattened nextTracks)

namespace Rulebook

/--
The text reads as a document with one statement on each line that states
something, each entry standing on its line, and the rules are, in order, those
that the entries with a policy list give in their places.
-/
def FlattenedFrom (rulebook : Rulebook) (text : String) : Prop :=
  ∃ document, Document.ofText text = .ok document ∧
    document.rankingLine :: document.entries.map Entry.line =
      (statementLines text.toList).map NumberedLine.number ∧
      (∀ entry ∈ document.entries, entry.StandsIn text.toList) ∧
        List.Forall₂ (Flattened document.entries) (policyPositions document.entries)
          rulebook.rules

/-- A rulebook read from text has the rules that the nesting of the text gives. -/
theorem flattenedFrom_of_ofText
    {text : String}
    {rulebook : Rulebook}
    (made : Rulebook.ofText text = .ok rulebook) :
    rulebook.FlattenedFrom text := by
  obtain ⟨document, ranking, rules, read, -, resolved, rfl⟩ := ofText_eq_ok_iff.mp made
  obtain ⟨last, added, -, -⟩ := Document.rules_eq_ok_iff.mp resolved
  have flattened := Nesting.tracks_start.flattened_addAll added
  refine ⟨document, read, Document.lines_eq read, fun entry => Document.entry_standsIn read, ?_⟩
  rw [policyPositions, List.range_eq_range']
  exact flattened

/-- Two lines under a header, the first with a line of its own below it. -/
def nestedText : String :=
  "priority: first-line\nfallback-policy: l standard\n# books\nm book\n" ++
    "  g adult: l reading\n    t !short: l long\n  s stack: r none\n"

/-- The nested text is accepted and flattened. -/
theorem flattenedFrom_nestedText :
    ∃ rulebook, Rulebook.ofText nestedText = .ok rulebook ∧
      rulebook.FlattenedFrom nestedText := by
  have accepted : (Rulebook.ofText nestedText).isOk = true := by decide +kernel
  cases made : Rulebook.ofText nestedText with
  | error error =>
      rw [made] at accepted
      cases accepted
  | ok rulebook => exact ⟨rulebook, rfl, flattenedFrom_of_ofText made⟩

end Rulebook

end LendingRules
