namespace LendingRules

/-!
# UUIDs

Ids in requests are UUIDs in hyphenated form: thirty-two hexadecimal digits in
groups of eight, four, four, four and twelve. Reading gives the digits; the
version is the thirteenth of them and the variant the two highest bits of the
seventeenth. Accepted are versions one to five of the standard variant.
-/

/-- The value of a hexadecimal digit of either case. -/
def hexValue? (digit : Char) : Option Nat :=
  if '0' ≤ digit ∧ digit ≤ '9' then
    some (digit.toNat - '0'.toNat)
  else if 'a' ≤ digit ∧ digit ≤ 'f' then
    some (digit.toNat - 'a'.toNat + 10)
  else if 'A' ≤ digit ∧ digit ≤ 'F' then
    some (digit.toNat - 'A'.toNat + 10)
  else
    none

/-- A UUID as its thirty-two hexadecimal digits. -/
structure Uuid where
  digits : List Nat
  deriving Repr, DecidableEq

namespace Uuid

/-- The regular expression quoted to callers whose ids are not accepted. -/
def pattern : String :=
  "^[a-fA-F0-9]\x7b8\x7d-[a-fA-F0-9]\x7b4\x7d-[1-5][a-fA-F0-9]\x7b3\x7d-" ++
    "[89abAB][a-fA-F0-9]\x7b3\x7d-[a-fA-F0-9]\x7b12\x7d$"

/-- Read a group of digits and return what follows it. -/
def readGroup? : Nat → List Char → Option (List Nat × List Char)
  | 0, rest => some ([], rest)
  | _ + 1, [] => none
  | size + 1, character :: rest => do
      let digit ← hexValue? character
      let (digits, rest) ← readGroup? size rest
      return (digit :: digits, rest)

/-- Read groups of the given sizes, each after a hyphen, up to the end. -/
def readGroups? : List Nat → List Char → Option (List Nat)
  | [], [] => some []
  | size :: sizes, '-' :: rest => do
      let (digits, rest) ← readGroup? size rest
      let others ← readGroups? sizes rest
      return digits ++ others
  | _, _ => none

/-- Read a UUID in hyphenated form. -/
def ofText? (text : String) : Option Uuid := do
  let (digits, rest) ← readGroup? 8 text.toList
  let others ← readGroups? [4, 4, 4, 12] rest
  return ⟨digits ++ others⟩

/-- The version number. -/
def version (uuid : Uuid) : Nat :=
  uuid.digits[12]?.getD 0

/-- Whether the two highest variant bits are one and zero. -/
def isStandardVariant (uuid : Uuid) : Bool :=
  uuid.digits[16]?.getD 0 / 4 = 2

/-- Whether a text is an acceptable id. -/
def isAccepted (text : String) : Bool :=
  match ofText? text with
  | some uuid =>
      1 ≤ uuid.version && uuid.version ≤ 5 && uuid.isStandardVariant
  | none => false

end Uuid

end LendingRules
