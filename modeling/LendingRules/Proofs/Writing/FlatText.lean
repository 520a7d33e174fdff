import LendingRules.Proofs.Writing.Acceptance
import LendingRules.Proofs.Writing.TextRules

namespace LendingRules

/-!
# The flat text of a rulebook

A rulebook can be written with one line for the ranking and one for each rule.
When it was read from text this flat text is accepted in turn, since its rules
are writable, one of them is the fallback, and a ranking that a text declares has
no two keys of one kind. It says the same on other lines, and it is its own flat
text.
-/

namespace Ranking

/-- Without repetition among the keys of a line there is none in the ranking they make. -/
theorem nodup_kinds_ofKeys
    {keys : List RankingKey}
    (distinct : (keys.map RankingKey.kind).Nodup)
    (placed : ∀ key ∈ keys.dropLast, key.kind ≠ .line) :
    ((ofKeys keys).keys.map RankingKey.kind).Nodup := by
  unfold ofKeys
  split
  · rename_i preference ends
    have shape : keys.dropLast ++ [.line preference] = keys :=
      List.dropLast_append_getLast? _ ends
    rw [Ranking.keys, shape]
    exact distinct
  · rename_i unended
    have noLine : ∀ key ∈ keys, key.kind ≠ .line := by
      rcases List.eq_nil_or_concat keys with rfl | ⟨leading, last, rfl⟩
      · simp
      · simp only [List.concat_eq_append, List.dropLast_concat] at placed unended ⊢
        refine List.forall_mem_append.mpr ⟨placed, List.forall_mem_singleton.mpr ?_⟩
        cases last with
        | line preference => exact absurd List.getLast?_concat (unended preference)
        | criteriaCount | precedence => simp [RankingKey.kind]
    rw [Ranking.keys, List.map_append, List.nodup_append]
    refine ⟨distinct, List.nodup_singleton _, ?_⟩
    intro kind member other otherMember same
    obtain ⟨key, keyMember, rfl⟩ := List.mem_map.mp member
    exact noLine key keyMember (same.trans (List.mem_singleton.mp otherMember))

end Ranking

/-- No two keys of the ranking that a document declares are of one kind. -/
theorem Document.nodup_kinds_of_ranking
    {document : Document}
    {declared : Ranking}
    (ranked : document.ranking = .ok declared) :
    (declared.keys.map RankingKey.kind).Nodup := by
  unfold Document.ranking at ranked
  split at ranked
  · obtain ⟨order, -, rfl⟩ := map_eq_ok_iff.mp ranked
    have kinds :
        (Ranking.ofPrecedence order).keys.map RankingKey.kind =
          [.criteriaCount, .precedence, .line] := rfl
    rw [kinds]
    decide
  · obtain ⟨keys, read, rfl⟩ := map_eq_ok_iff.mp ranked
    obtain ⟨made, distinct, -, placed⟩ := RankingItem.keysAfter_eq_ok_iff.mp read
    have kinds : document.rankingItems.map RankingItem.keyKind = keys.map RankingKey.kind := by
      rw [← List.forall₂_eq_eq_eq, List.forall₂_map_left_iff, List.forall₂_map_right_iff]
      exact made.imp fun item key keyMade => (RankingItem.kind_of_key_eq_ok keyMade).symm
    apply Ranking.nodup_kinds_ofKeys (kinds ▸ distinct)
    intro key member isLine
    have listed : .line ∈ document.rankingItems.dropLast.map RankingItem.keyKind := by
      rw [List.map_dropLast, kinds, ← List.map_dropLast, ← isLine]
      exact List.mem_map_of_mem member
    obtain ⟨item, itemMember, sameKind⟩ := List.mem_map.mp listed
    exact placed item itemMember sameKind

/-- What it means that a rulebook says the same as another one, on other lines. -/
structure Rulebook.SameUpToLines
    (renumber : Nat → Nat)
    (built moved : Rulebook) : Prop where
  keepsOrder : KeepsOrder renumber built.rules
  ranking : moved.ranking = built.ranking
  rules : List.Forall₂ Rule.SameButLine built.rules moved.rules
  lines : moved.rules.map Rule.line = built.rules.map fun rule => renumber rule.line
  rulings : ∀ request type, moved.rulings request type =
    (built.rulings request type).map (Ruling.renumbered renumber)

namespace Rulebook

/-- A rulebook whose rules moved in order says the same. -/
theorem Made.sameUpToLines
    {built moved : Rulebook}
    {renumber : Nat → Nat}
    (builtMade : built.Made)
    (movedMade : moved.Made)
    (keeps : KeepsOrder renumber built.rules)
    (sameRanking : moved.ranking = built.ranking)
    (movedRules : moved.rules = built.rules.map (Rule.renumbered renumber)) :
    SameUpToLines renumber built moved := by
  refine ⟨keeps, sameRanking, ?_, ?_, fun request type => ?_⟩
  · rw [movedRules, List.forall₂_map_right_iff, List.forall₂_same]
    intro rule _
    exact ⟨rfl, rfl, rfl, rfl⟩
  · rw [movedRules, List.map_map]
    rfl
  · exact builtMade.rulings_renumbered movedMade keeps sameRanking movedRules request type

/-- The lines of rules are not written. -/
theorem writtenRules_renumbered (ranking : Ranking) (renumber : Nat → Nat) (rules : List Rule) :
    writtenRules ranking (rules.map (Rule.renumbered renumber)) = writtenRules ranking rules := by
  rw [writtenRules, List.map_map]
  rfl

/--
The flat text of a rulebook that was read from text without carriage returns is
accepted, says the same up to the lines, and has itself for its flat text.
-/
theorem sameUpToLines_writtenText
    {text : String}
    {rulebook : Rulebook}
    (noReturn : '\r' ∉ text.toList)
    (compiled : ofText text = .ok rulebook) :
    ∃ flat renumber,
      ofText rulebook.writtenText = .ok flat ∧ SameUpToLines renumber rulebook flat ∧
        flat.writtenText = rulebook.writtenText := by
  have made : rulebook.Made := .ofText compiled
  have sound := made.soundRules.1
  have writable := writable_of_ofText noReturn compiled
  have distinct : (rulebook.ranking.keys.map RankingKey.kind).Nodup := by
    obtain ⟨document, ranking, rules, -, ranked, -, rfl⟩ := ofText_eq_ok_iff.mp compiled
    exact Document.nodup_kinds_of_ranking ranked
  obtain ⟨flat, read⟩ :=
    (exists_ofText_writtenRules_iff writable sound.oneFallback).mpr distinct
  have flatEq := eq_of_ofText_writtenRules writable read
  have sameRanking : flat.ranking = rulebook.ranking := by
    rw [flatEq, ranking_ofRules]
  have moved :
      flat.rules = rulebook.rules.map (Rule.renumbered (writtenLine 2 rulebook.rules)) := by
    rw [← onLinesFrom_eq_map 2 sound.ascending, flatEq, rules_ofRules]
  refine ⟨flat, writtenLine 2 rulebook.rules, read, ?_, ?_⟩
  · exact made.sameUpToLines (.ofText read) (keepsOrder_writtenLine 2 _) sameRanking moved
  · rw [writtenText, sameRanking, moved, writtenRules_renumbered, writtenText]

/-- Nested rules with ids that hold signs of the grammar, and a blank that is no space. -/
def oddNamesText : String :=
  "# odd names\npriority: t,s c b, a m g\nfallback-policy: l base r 1#\n" ++
    "m a#b x+y + g !all !?\n\n  // nested\n    t all : l x!y\n    c all b: n !z\ns a\u00a0b :l c"

/-- The flat text of the odd names says the same. -/
theorem sameUpToLines_oddNamesText :
    ∃ rulebook, ofText oddNamesText = .ok rulebook ∧
      ∃ flat renumber,
        ofText rulebook.writtenText = .ok flat ∧ SameUpToLines renumber rulebook flat ∧
          flat.writtenText = rulebook.writtenText := by
  obtain ⟨rulebook, compiled⟩ :=
    exists_of_accepted (by decide +kernel : (ofText oddNamesText).isOk = true)
  exact ⟨rulebook, compiled, sameUpToLines_writtenText (by decide +kernel) compiled⟩

end Rulebook

end LendingRules
