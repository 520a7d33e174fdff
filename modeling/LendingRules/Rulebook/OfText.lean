import LendingRules.Document.Nesting
import LendingRules.Error
import LendingRules.Rulebook.Basic

namespace LendingRules

/-!
# Rulebooks from text

Rule text is read as a document, whose ranking and rules then make a rulebook.
The first thing that is wrong is reported: first anything about the form of the
text, then about the ranking, then about the rules.
-/

namespace Document

/-- The rulebook of a document whose text has the given digest. -/
def rulebook (document : Document) (digest : Digest) : Except RuleError Rulebook := do
  let ranking ← document.ranking
  let rules ← document.rules
  return .ofRules ranking rules digest

end Document

namespace Rulebook

/-- The rulebook that rule text describes. -/
def ofText (text : String) : Except LendingError Rulebook :=
  match Document.ofText text with
  | .error error => .error (.syntaxError error)
  | .ok document =>
      match document.rulebook (.ofText text) with
      | .error error => .error (.ruleError error)
      | .ok rulebook => .ok rulebook

/-- Text that makes a rulebook reads as a document that makes it. -/
theorem ofText_eq_ok_iff {text : String} {rulebook : Rulebook} :
    ofText text = .ok rulebook ↔
      ∃ document ranking rules,
        Document.ofText text = .ok document ∧
          document.ranking = .ok ranking ∧
            document.rules = .ok rules ∧
              rulebook = .ofRules ranking rules (.ofText text) := by
  unfold ofText
  cases read : Document.ofText text with
  | error error => simp
  | ok document =>
      simp only [Document.rulebook]
      cases ranked : document.ranking with
      | error error => simp [bind, Except.bind, ranked]
      | ok ranking =>
          cases made : document.rules with
          | error error => simp [bind, Except.bind, ranked, made]
          | ok rules =>
              simp [bind, Except.bind, pure, Except.pure, ranked, made, eq_comm]

/-- A text that is accepted makes some rulebook. -/
theorem exists_of_accepted
    {text : String}
    (accepted : (ofText text).isOk = true) :
    ∃ rulebook, ofText text = .ok rulebook := by
  cases compiled : ofText text with
  | error error =>
      rw [compiled] at accepted
      cases accepted
  | ok rulebook => exact ⟨rulebook, rfl⟩

/-- A rulebook bears the digest of its text. -/
theorem digest_of_ofText
    {text : String}
    {rulebook : Rulebook}
    (made : ofText text = .ok rulebook) :
    rulebook.digest = .ofText text := by
  obtain ⟨document, ranking, rules, -, -, -, rfl⟩ := ofText_eq_ok_iff.mp made
  rfl

/-- The rulebook in a file, given the bytes of the file when there is one. -/
def ofFile (contents? : Option ByteArray) : Except LendingError Rulebook :=
  match contents? with
  | none => .error (.fileError .notFound)
  | some contents =>
      match String.fromUTF8? contents with
      | none => .error (.fileError .notUtf8)
      | some text => ofText text

/-- The ruling of a type for a request, which some rule has to give. -/
def requireRuling
    (rulebook : Rulebook)
    (request : Request)
    (type : PolicyType) :
    Except LendingError Ruling :=
  match rulebook.ruling? request type with
  | some ruling => .ok ruling
  | none => .error (.noRuling type)

end Rulebook

end LendingRules
