import LendingRules.Text.Extending
import LendingRules.Text.Ignorable
import LendingRules.Text.Unprintable

namespace LendingRules

/-!
# Quoted text

Text shown in a message stands between double quotes. A quote, a backslash and
the commonest controls are escaped by a letter or themselves, and characters
that would not be seen on their own are shown by their hexadecimal code point.
-/

/-- Whether a character would not be seen on its own. -/
def isHidden (character : Char) : Bool :=
  isExtending character || isIgnorable character || isUnprintable character

/-- A character as it is shown between quotes. -/
def quotedCharacter (character : Char) : List Char :=
  match character with
  | '\x00' => ['\\', '0']
  | '\t' => ['\\', 't']
  | '\r' => ['\\', 'r']
  | '\n' => ['\\', 'n']
  | '"' => ['\\', '"']
  | '\\' => ['\\', '\\']
  | _ =>
      if isHidden character then
        ['\\', 'u', '\x7b'] ++ Nat.toDigits 16 character.toNat ++ ['\x7d']
      else
        [character]

/-- A text between double quotes. -/
def quoted (text : String) : String :=
  "\"" ++ String.ofList (text.toList.flatMap quotedCharacter) ++ "\""

end LendingRules
