import LendingRules.Text.CodeRange

namespace LendingRules

/-!
# Blank characters

The characters with the Unicode property White_Space. An id in rule text may
hold none of them if it is to read back unchanged.
-/

/-- The ranges of blank characters. -/
def blankRanges : List CodeRange :=
  [⟨0x9, 0xD⟩, ⟨0x20, 0x20⟩, ⟨0x85, 0x85⟩, ⟨0xA0, 0xA0⟩, ⟨0x1680, 0x1680⟩,
    ⟨0x2000, 0x200A⟩, ⟨0x2028, 0x2029⟩, ⟨0x202F, 0x202F⟩, ⟨0x205F, 0x205F⟩,
    ⟨0x3000, 0x3000⟩]

/-- Whether a character is blank. -/
def isBlank (character : Char) : Bool :=
  CodeRange.anyContains blankRanges character

/-- The blank characters of ASCII that core knows are among the blank ones. -/
theorem isBlank_of_isWhitespace
    {character : Char}
    (whitespace : character.isWhitespace = true) :
    isBlank character = true := by
  simp only [Char.isWhitespace, Bool.or_eq_true, decide_eq_true_eq] at whitespace
  rcases whitespace with ((rfl | rfl) | rfl) | rfl <;> decide

end LendingRules
