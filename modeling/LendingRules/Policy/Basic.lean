namespace LendingRules

/-!
# Policy types

A library decides five things about a loan: how it is lent, whether it can be
requested, which notices are sent, and which fines and fees apply. Each is
settled by a policy of its own type.
-/

/-- One of the five types of policy a rule may assign. -/
inductive PolicyType where
  | loan
  | request
  | notice
  | overdueFine
  | lostItemFee
  deriving Repr, DecidableEq

namespace PolicyType

/-- The five policy types in their customary order. -/
def all : List PolicyType :=
  [loan, request, notice, overdueFine, lostItemFee]

/-- The letter that stands for a policy type in rule text. -/
def letter : PolicyType → Char
  | loan => 'l'
  | request => 'r'
  | notice => 'n'
  | overdueFine => 'o'
  | lostItemFee => 'i'

/-- The policy type that a letter stands for. -/
def ofLetter? (letter : Char) : Option PolicyType :=
  all.find? fun type => type.letter = letter

/-- The name of a policy type as shown to people. -/
def name : PolicyType → String
  | loan => "loan"
  | request => "request"
  | notice => "notice"
  | overdueFine => "overdue fine"
  | lostItemFee => "lost item fee"

/-- The name of a policy type in records, with hyphens between its words. -/
def recordName : PolicyType → String
  | loan => "loan"
  | request => "request"
  | notice => "notice"
  | overdueFine => "overdue-fine"
  | lostItemFee => "lost-item-fee"

/-- The policy type with a given record name. -/
def ofRecordName? (name : String) : Option PolicyType :=
  all.find? fun type => type.recordName = name

/-- Every policy type is listed. -/
theorem mem_all (type : PolicyType) : type ∈ all := by
  cases type <;> decide

/-- No policy type is listed twice. -/
theorem nodup_all : all.Nodup := by
  decide

/-- A letter stands for a policy type exactly when it is that type's letter. -/
theorem ofLetter?_eq_some_iff {letter : Char} {type : PolicyType} :
    ofLetter? letter = some type ↔ type.letter = letter := by
  constructor
  · intro found
    simpa using List.find?_some found
  · rintro rfl
    cases type <;> decide

@[simp] theorem ofLetter?_letter (type : PolicyType) :
    ofLetter? type.letter = some type :=
  ofLetter?_eq_some_iff.mpr rfl

/-- A record name is read back as the policy type that bears it. -/
@[simp] theorem ofRecordName?_recordName (type : PolicyType) :
    ofRecordName? type.recordName = some type := by
  cases type <;> decide

end PolicyType

end LendingRules
