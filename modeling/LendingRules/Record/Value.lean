namespace LendingRules

/-!
# Records

Rulings and settings are exchanged as values of a JSON kind: texts, numbers,
lists, and records with named fields. A record may also be given as the list of
its fields in their order. Fields that are not asked for are ignored.
-/

/-- A value as it is exchanged. -/
inductive Value where
  | null
  | boolean (value : Bool)
  | natural (value : Nat)
  | otherNumber
  | text (value : String)
  | list (values : List Value)
  | record (fields : List (String × Value))
  deriving Repr, Inhabited

namespace Value

/-- The truth value that a value is. -/
def boolean? : Value → Option Bool
  | boolean value => some value
  | _ => none

/-- The text that a value is. -/
def text? : Value → Option String
  | text value => some value
  | _ => none

/-- The number of at most sixty-four bits that a value is. -/
def word? : Value → Option Nat
  | natural value => if value < UInt64.size then some value else none
  | _ => none

/--
The word that a value is, or that names the only field of a record without
content.
-/
def word : Value → Option String
  | text value => some value
  | record [(name, null)] => some name
  | _ => none

/-- The fields with the given names; a list has to hold all of them. -/
def fields? (names : List String) : Value → Option (List (Option Value))
  | record fields => some (names.map fun name => fields.lookup name)
  | list values =>
      if values.length = names.length then some (values.map some) else none
  | _ => none

/-- The fields with the given names, of which a list may lack the last. -/
def leadingFields? (names : List String) : Value → Option (List (Option Value))
  | record fields => some (names.map fun name => fields.lookup name)
  | list values =>
      if values.length ≤ names.length then
        some (values.map some ++ .replicate (names.length - values.length) none)
      else
        none
  | _ => none

end Value

end LendingRules
