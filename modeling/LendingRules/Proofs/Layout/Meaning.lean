import LendingRules.Proofs.Layout.Documents
import LendingRules.Proofs.Writing.FlatText
import Mathlib.Logic.Relation

namespace LendingRules

/-!
# Layout does not change meaning

One edit of the layout leaves a text accepted, with the same ranking and with
rules that are the same but for their lines, which have only moved down. This
goes on along any number of edits, and rules that keep their order give the same
rulings.
-/

/-- A text and what any number of edits of its layout make of it. -/
def Relaid : String → String → Prop :=
  Relation.ReflTransGen fun text edited => LayoutEdit text.toList edited.toList

namespace Rulebook

variable {text edited : String} {rulebook : Rulebook}

/-- An edit of the layout moves the rules of a text without changing their order. -/
theorem exists_moved_of_layoutEdit
    (edit : LayoutEdit text.toList edited.toList)
    (compiled : ofText text = .ok rulebook) :
    ∃ (moved : Rulebook) (renumber : Nat → Nat),
      ofText edited = .ok moved ∧ StrictMono renumber ∧
        moved.ranking = rulebook.ranking ∧
          moved.rules = rulebook.rules.map (Rule.renumbered renumber) := by
  obtain ⟨document, ranking, rules, read, ranked, made, rfl⟩ := ofText_eq_ok_iff.mp compiled
  obtain ⟨renumber, mono, restates⟩ := edit.lineEdit.exists_restates
  rw [← statementLines_eq, ← statementLines_eq] at restates
  have noTab : '\t' ∉ edited.toList :=
    edit.noTab (firstTab?_eq_none_iff.mp (Document.ofText_eq_ok_iff.mp read).1)
  have editedRead : Document.ofText edited = .ok (document.renumbered renumber) :=
    Document.ofText_of_restates renumber read (Document.hasLetters_of_ranking ranked) noTab
      restates
  have editedCompiled := ofText_eq_ok_iff.mpr
    ⟨_, _, _, editedRead, Document.ranking_renumbered renumber ranked,
      Document.rules_renumbered renumber made, rfl⟩
  -- The digests of the two texts differ, and nothing here may ask by how much.
  refine ⟨_, renumber, editedCompiled, mono, ?_, ?_⟩
  · rw [ranking_ofRules, ranking_ofRules]
  · rw [rules_ofRules, rules_ofRules]

/-- Any number of edits of the layout do. -/
theorem exists_moved_of_relaid
    (relaid : Relaid text edited)
    (compiled : ofText text = .ok rulebook) :
    ∃ (moved : Rulebook) (renumber : Nat → Nat),
      ofText edited = .ok moved ∧ StrictMono renumber ∧
        moved.ranking = rulebook.ranking ∧
          moved.rules = rulebook.rules.map (Rule.renumbered renumber) := by
  induction relaid with
  | refl =>
      refine ⟨rulebook, id, compiled, strictMono_id, rfl, ?_⟩
      exact (List.map_id rulebook.rules).symm
  | tail _ edit inductionHypothesis =>
      obtain ⟨moved, renumber, movedCompiled, mono, sameRanking, rules⟩ := inductionHypothesis
      obtain ⟨last, further, lastCompiled, furtherMono, lastRanking, lastRules⟩ :=
        exists_moved_of_layoutEdit edit movedCompiled
      refine ⟨last, further ∘ renumber, lastCompiled, furtherMono.comp mono,
        lastRanking.trans sameRanking, ?_⟩
      rw [lastRules, rules, List.map_map]
      rfl

/--
Any number of edits of the layout leave a text accepted, with a rulebook that
says the same up to the lines, which are renumbered strictly upwards.
-/
theorem sameUpToLines_of_relaid
    (relaid : Relaid text edited)
    (compiled : ofText text = .ok rulebook) :
    ∃ (moved : Rulebook) (renumber : Nat → Nat),
      ofText edited = .ok moved ∧ StrictMono renumber ∧
        SameUpToLines renumber rulebook moved := by
  obtain ⟨moved, renumber, movedCompiled, mono, sameRanking, rules⟩ :=
    exists_moved_of_relaid relaid compiled
  have keeps : KeepsOrder renumber rulebook.rules :=
    fun first _ second _ before => mono before
  exact ⟨moved, renumber, movedCompiled, mono,
    Made.sameUpToLines (.ofText compiled) (.ofText movedCompiled) keeps sameRanking rules⟩

/-- A text without anything that could be left out. -/
def terseText : String :=
  "priority: t s c b a m g\nm book\n  t x: l y\nfallback-policy: l z"

/-- The terse text with a comment line above the nested rule. -/
def commentedText : String :=
  "priority: t s c b a m g\nm book\n//\n  t x: l y\nfallback-policy: l z"

/-- The commented text with a carriage return behind the ranking. -/
def returnedText : String :=
  "priority: t s c b a m g\r\nm book\n//\n  t x: l y\nfallback-policy: l z"

/-- The same with a remark behind the ranking. -/
def remarkedText : String :=
  "priority: t s c b a m g #!\r\nm book\n//\n  t x: l y\nfallback-policy: l z"

/-- Each kind of edit was made once. -/
theorem relaid_remarkedText : Relaid terseText remarkedText := by
  have commented : LayoutEdit terseText.toList commentedText.toList := by
    have shape :
        terseText.toList =
          "priority: t s c b a m g\nm book\n".toList ++
            "  t x: l y\nfallback-policy: l z".toList := by
      decide +kernel
    have editedShape :
        commentedText.toList =
          "priority: t s c b a m g\nm book\n".toList ++
            (['/', '/'] ++ '\n' :: "  t x: l y\nfallback-policy: l z".toList) := by
      decide +kernel
    have complete : IsComplete "priority: t s c b a m g\nm book\n".toList := by
      simp [IsComplete]
    rw [shape, editedShape]
    exact .insertLine complete ⟨0, ['/', '/'], rfl, by simp⟩ (by simp) (by simp)
  have returned : LayoutEdit commentedText.toList returnedText.toList := by
    have shape :
        commentedText.toList =
          "priority: t s c b a m g".toList ++
            '\n' :: "m book\n//\n  t x: l y\nfallback-policy: l z".toList := by
      decide +kernel
    have editedShape :
        returnedText.toList =
          "priority: t s c b a m g".toList ++
            '\r' :: '\n' :: "m book\n//\n  t x: l y\nfallback-policy: l z".toList := by
      decide +kernel
    rw [shape, editedShape]
    exact .addReturn (by decide +kernel)
  have remarked : LayoutEdit returnedText.toList remarkedText.toList := by
    have shape :
        returnedText.toList =
          [] ++ ("priority: t s c b a m g".toList ++
            '\r' :: '\n' :: "m book\n//\n  t x: l y\nfallback-policy: l z".toList) := by
      decide +kernel
    have editedShape :
        remarkedText.toList =
          [] ++ ("priority: t s c b a m g".toList ++ ([' ', '#', '!'] ++
            '\r' :: '\n' :: "m book\n//\n  t x: l y\nfallback-policy: l z".toList)) := by
      decide +kernel
    have remark : IsPadding [' ', '#', '!'] := ⟨0, ['#', '!'], rfl, .inr ⟨['!'], rfl⟩⟩
    rw [shape, editedShape]
    exact .pad (by simp [IsComplete]) (by decide +kernel) (.returnFeed _) remark (by simp)
      (by simp)
  exact .tail (.tail (.single commented) returned) remarked

/-- The text with all the edits says the same as the terse one. -/
theorem sameUpToLines_remarkedText :
    ∃ rulebook, ofText terseText = .ok rulebook ∧ Relaid terseText remarkedText ∧
      ∃ (moved : Rulebook) (renumber : Nat → Nat),
        ofText remarkedText = .ok moved ∧ StrictMono renumber ∧
          SameUpToLines renumber rulebook moved := by
  obtain ⟨rulebook, compiled⟩ :=
    exists_of_accepted (by decide +kernel : (ofText terseText).isOk = true)
  exact ⟨rulebook, compiled, relaid_remarkedText,
    sameUpToLines_of_relaid relaid_remarkedText compiled⟩

end Rulebook

end LendingRules
