import LendingRules.Cache.Lifetimes
import LendingRules.Record.Value
import LendingRules.Ruling.Basic

namespace LendingRules

/-!
# Records of rulings and settings

How facets, policy types, rulings, reports, decisions and lifetimes are written
as values, and how they are read back. Only the highest facet of a ruling may be
missing or null; lifetimes fall back on their defaults field by field.
-/

namespace Facet

/-- The value that names a facet. -/
def toValue (facet : Facet) : Value :=
  .text facet.recordName

/-- The facet that a value names. -/
def ofValue? (value : Value) : Option Facet :=
  value.word.bind ofRecordName?

/-- A named facet is read back. -/
theorem ofValue?_toValue (facet : Facet) : ofValue? facet.toValue = some facet := by
  simp [ofValue?, toValue, Value.word]

end Facet

namespace PolicyType

/-- The value that names a policy type. -/
def toValue (type : PolicyType) : Value :=
  .text type.recordName

/-- The policy type that a value names. -/
def ofValue? (value : Value) : Option PolicyType :=
  value.word.bind ofRecordName?

/-- A named policy type is read back. -/
theorem ofValue?_toValue (type : PolicyType) : ofValue? type.toValue = some type := by
  simp [ofValue?, toValue, Value.word]

end PolicyType

namespace AppliedConditions

/-- The names of the fields, in their order. -/
def fieldNames : List String :=
  ["materialTypeMatch", "loanTypeMatch", "patronGroupMatch"]

/-- The record of applied conditions. -/
def toValue (applied : AppliedConditions) : Value :=
  .record
    [("materialTypeMatch", .boolean applied.materialType),
      ("loanTypeMatch", .boolean applied.loanType),
      ("patronGroupMatch", .boolean applied.patronGroup)]

/-- The applied conditions in a record. -/
def ofValue? (value : Value) : Option AppliedConditions := do
  match ← value.fields? fieldNames with
  | [some materialType, some loanType, some patronGroup] =>
      return {
        materialType := ← materialType.boolean?
        loanType := ← loanType.boolean?
        patronGroup := ← patronGroup.boolean? }
  | _ => none

/-- Written conditions are read back. -/
theorem ofValue?_toValue (applied : AppliedConditions) :
    ofValue? applied.toValue = some applied := by
  rfl

end AppliedConditions

namespace Ruling

/-- The names of the fields, in their order. -/
def fieldNames : List String :=
  ["policyId", "family", "sourceLine", "highestKind", "appliedRuleConditions"]

/-- The record of a ruling. -/
def toValue (ruling : Ruling) : Value :=
  .record
    [("policyId", .text ruling.policyId),
      ("family", ruling.policyType.toValue),
      ("sourceLine", .natural ruling.line),
      ("highestKind", ruling.highestFacet.elim .null Facet.toValue),
      ("appliedRuleConditions", ruling.applied.toValue)]

/-- The highest facet in a field that may be missing or null. -/
def highestFacetOfField? : Option Value → Option (Option Facet)
  | none | some .null => some none
  | some value => (Facet.ofValue? value).map some

/-- The ruling in a record. -/
def ofValue? (value : Value) : Option Ruling := do
  match ← value.fields? fieldNames with
  | [some policyId, some policyType, some line, highestFacet, some applied] =>
      return {
        policyId := ← policyId.text?
        policyType := ← PolicyType.ofValue? policyType
        line := ← line.word?
        highestFacet := ← highestFacetOfField? highestFacet
        applied := ← AppliedConditions.ofValue? applied }
  | _ => none

end Ruling

namespace Report

/-- The record of a report. -/
def toValue (report : Report) : Value :=
  .record
    [("family", report.policyType.toValue),
      ("matches", .list (report.rulings.map Ruling.toValue))]

end Report

namespace Decision

/-- The names of the fields, in their order. -/
def fieldNames : List String :=
  ["loan", "request", "notice", "overdueFine", "lostItemFee"]

/-- The record of a decision. -/
def toValue (decision : Decision) : Value :=
  .record
    [("loan", decision.loan.toValue),
      ("request", decision.request.toValue),
      ("notice", decision.notice.toValue),
      ("overdueFine", decision.overdueFine.toValue),
      ("lostItemFee", decision.lostItemFee.toValue)]

/-- The decision in a record. -/
def ofValue? (value : Value) : Option Decision := do
  match ← value.fields? fieldNames with
  | [some loan, some request, some notice, some overdueFine, some lostItemFee] =>
      return {
        loan := ← Ruling.ofValue? loan
        request := ← Ruling.ofValue? request
        notice := ← Ruling.ofValue? notice
        overdueFine := ← Ruling.ofValue? overdueFine
        lostItemFee := ← Ruling.ofValue? lostItemFee }
  | _ => none

end Decision

namespace Lifetimes

/-- The names of the fields, in their order. -/
def fieldNames : List String :=
  ["set_ttl_ms", "fetch_ttl_ms"]

/-- The record of lifetimes. -/
def toValue (lifetimes : Lifetimes) : Value :=
  .record
    [("set_ttl_ms", .natural lifetimes.expiry),
      ("fetch_ttl_ms", .natural lifetimes.refresh)]

/-- The number in a field, or the default when the field is missing. -/
def millisOfField? (standard : Nat) : Option Value → Option Nat
  | none => some standard
  | some value => value.word?

/-- The lifetimes in a record. -/
def ofValue? (value : Value) : Option Lifetimes := do
  let standard : Lifetimes := {}
  match ← value.leadingFields? fieldNames with
  | [expiry, refresh] =>
      return {
        expiry := ← millisOfField? standard.expiry expiry
        refresh := ← millisOfField? standard.refresh refresh }
  | _ => none

end Lifetimes

end LendingRules
