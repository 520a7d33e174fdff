namespace LendingRules

/-!
# Lifetimes of cached rulebooks

How long a cached rulebook may be served: from its refresh age on it is served
while a reload runs in the background, and from its expiry age on only after a
reload. Both ages are whole milliseconds in sixty-four bits; spans of time are
counted in nanoseconds.
-/

/-- The largest number of sixty-four bits. -/
def maxWord : Nat :=
  UInt64.size - 1

/-- A span of time in nanoseconds. -/
abbrev Span := Nat

namespace Span

/-- A span of whole milliseconds. -/
def ofMillis (millis : Nat) : Span :=
  1000000 * millis

/-- A span of whole microseconds. -/
def ofMicros (micros : Nat) : Span :=
  1000 * micros

/-- A span of whole seconds. -/
def ofSeconds (seconds : Nat) : Span :=
  1000000000 * seconds

/-- The longest span: the most seconds in sixty-four bits, and one nanosecond short of another. -/
def longest : Span :=
  ofSeconds maxWord + 999999999

/-- The milliseconds that have passed in full, at most what sixty-four bits hold. -/
def millis (span : Span) : Nat :=
  min (span / 1000000) maxWord

end Span

/-- The ages, in milliseconds, at which a cached rulebook expires and is refreshed. -/
structure Lifetimes where
  expiry : Nat := 5000
  refresh : Nat := 4000
  deriving Repr, DecidableEq

namespace Lifetimes

/-- The lifetimes given by two spans, in whole milliseconds. -/
def ofSpans (expiry refresh : Span) : Lifetimes where
  expiry := expiry.millis
  refresh := refresh.millis

/-- The age from which a rulebook is no longer served as it is. -/
def expiryAge (lifetimes : Lifetimes) : Span :=
  .ofMillis lifetimes.expiry

/-- The age from which a rulebook is refreshed while it is served. -/
def refreshAge (lifetimes : Lifetimes) : Span :=
  .ofMillis lifetimes.refresh

/-- The value of decimal digits, when they are all digits. -/
def digitsValue? (digits : List Char) : Option Nat :=
  if digits.all Char.isDigit then
    some (digits.foldl (fun value digit => 10 * value + (digit.toNat - '0'.toNat)) 0)
  else
    none

/--
Read a whole number of sixty-four bits: decimal digits, at least one, after an
optional plus sign.
-/
def readMillis? (text : String) : Option Nat :=
  let digits :=
    match text.toList with
    | '+' :: digits => digits
    | digits => digits
  if digits.isEmpty then
    none
  else
    (digitsValue? digits).filter (· ≤ maxWord)

/--
The lifetimes set in the environment. A variable that is unset or does not read
as a number leaves the default in place.
-/
def ofEnvironment (expiry? refresh? : Option String) : Lifetimes :=
  let standard : Lifetimes := {}
  { expiry := (expiry?.bind readMillis?).getD standard.expiry
    refresh := (refresh?.bind readMillis?).getD standard.refresh }

end Lifetimes

end LendingRules
