import Mathlib.Computability.Language

namespace LendingRules

/-!
# Patterns of characters

The regular expressions that callers are shown have no choice and no star: they are
characters that stand for themselves and fixed numbers of characters from a class.
A pattern can be written out as such an expression, and it stands for the language
of the words that match the expression from the first to the last character.
-/

/-- The characters from a first to a last one, in the order of their codes. -/
structure CharRange where
  first : Char
  last : Char
  deriving Repr, DecidableEq

/-- A character that stands for itself, or some characters from a class. -/
inductive PatternPart where
  | plain (character : Char)
  | oneOf (ranges : List CharRange) (count : Nat)
  deriving Repr, DecidableEq

/-- Parts that follow each other from the beginning of a word to its end. -/
structure Pattern where
  parts : List PatternPart
  deriving Repr, DecidableEq

namespace CharRange

/-- A range of one character, which is written as that character. -/
def only (character : Char) : CharRange :=
  ⟨character, character⟩

/-- Whether a character lies in one of the ranges of a class. -/
def Contain (ranges : List CharRange) (character : Char) : Prop :=
  ∃ range ∈ ranges, range.first ≤ character ∧ character ≤ range.last

instance (ranges : List CharRange) (character : Char) : Decidable (Contain ranges character) :=
  inferInstanceAs (Decidable (∃ range ∈ ranges, _))

/-- The words of one character, which lies in one of the ranges. -/
def language (ranges : List CharRange) : Language Char :=
  {word | ∃ character, Contain ranges character ∧ word = [character]}

/-- The range as regular expressions write it. -/
def text (range : CharRange) : String :=
  if range.first = range.last then
    String.singleton range.first
  else
    String.ofList [range.first, '-', range.last]

end CharRange

namespace PatternPart

/-- The part as regular expressions write it. -/
def text : PatternPart → String
  | plain character => String.singleton character
  | oneOf ranges count =>
      "[" ++ String.join (ranges.map CharRange.text) ++ "]" ++
        if count = 1 then "" else "\x7b" ++ toString count ++ "\x7d"

/-- The words that match the part. -/
def language : PatternPart → Language Char
  | plain character => {[character]}
  | oneOf ranges count => CharRange.language ranges ^ count

/-- A part is matched by as many characters as it says, all of them from its class. -/
theorem mem_language_oneOf {ranges : List CharRange} {count : Nat} {word : List Char} :
    word ∈ (oneOf ranges count).language ↔
      word.length = count ∧ ∀ character ∈ word, CharRange.Contain ranges character := by
  induction count generalizing word with
  | zero =>
      simp only [language, pow_zero, Language.mem_one, List.length_eq_zero_iff]
      exact ⟨fun empty => ⟨empty, by simp [empty]⟩, And.left⟩
  | succ count inductionHypothesis =>
      simp only [language] at inductionHypothesis ⊢
      rw [pow_succ', Language.mem_mul]
      constructor
      · rintro ⟨_, ⟨first, contained, rfl⟩, rest, matching, rfl⟩
        obtain ⟨length, others⟩ := inductionHypothesis.mp matching
        exact ⟨by simp [length], by simpa using ⟨contained, others⟩⟩
      · rintro ⟨length, contained⟩
        obtain ⟨first, rest, rfl, restLength⟩ := List.exists_of_length_succ _ length
        exact ⟨[first], ⟨first, contained first (by simp), rfl⟩, rest,
          inductionHypothesis.mpr ⟨by simpa using length, fun other member =>
            contained other (List.mem_cons_of_mem _ member)⟩, rfl⟩

/-- A character of a narrower class begins a group of a class. -/
theorem mem_language_oneOf_succ_iff
    {narrow wide : List CharRange}
    {count : Nat}
    {group : List Char}
    (narrower : ∀ character,
      CharRange.Contain narrow character → CharRange.Contain wide character) :
    group ∈ (oneOf wide (count + 1)).language ∧
        (∃ character ∈ group.head?, CharRange.Contain narrow character) ↔
      ∃ lead ∈ (oneOf narrow 1).language, ∃ tail ∈ (oneOf wide count).language,
        lead ++ tail = group := by
  simp only [mem_language_oneOf]
  constructor
  · rintro ⟨⟨length, contained⟩, first, isFirst, firstContained⟩
    obtain ⟨tail, rfl⟩ := List.head?_eq_some_iff.mp isFirst
    exact ⟨[first], ⟨rfl, by simpa using firstContained⟩, tail,
      ⟨by simpa using length, fun other member =>
        contained other (List.mem_cons_of_mem _ member)⟩, rfl⟩
  · rintro ⟨lead, ⟨one, contained⟩, tail, ⟨length, others⟩, rfl⟩
    obtain ⟨first, rfl⟩ := List.length_eq_one_iff.mp one
    have firstContained := contained first (by simp)
    exact ⟨⟨by simp [length], by simpa using ⟨narrower _ firstContained, others⟩⟩,
      first, rfl, firstContained⟩

end PatternPart

namespace Pattern

/-- The pattern as a regular expression for whole words. -/
def text (pattern : Pattern) : String :=
  "^" ++ String.join (pattern.parts.map PatternPart.text) ++ "$"

/-- The words that match the pattern. -/
def language (pattern : Pattern) : Language Char :=
  (pattern.parts.map PatternPart.language).prod

variable {parts : List PatternPart} {word : List Char}

@[simp] theorem mem_language_nil : word ∈ (mk []).language ↔ word = [] :=
  Language.mem_one word

/-- A word matches a pattern when its beginning matches the first part, and the rest the others. -/
theorem mem_language_cons {part : PatternPart} :
    word ∈ (mk (part :: parts)).language ↔
      ∃ matching ∈ part.language, ∃ rest ∈ (mk parts).language, matching ++ rest = word := by
  rw [language, List.map_cons, List.prod_cons, Language.mem_mul]
  rfl

/-- The words of a single part. -/
theorem mem_language_singleton {part : PatternPart} :
    word ∈ (mk [part]).language ↔ word ∈ part.language := by
  rw [language, List.map_singleton, List.prod_singleton]

/-- A character that stands for itself separates what comes before it from the rest. -/
theorem mem_language_separated {part : PatternPart} {character : Char} :
    word ∈ (mk (part :: .plain character :: parts)).language ↔
      ∃ group ∈ part.language, ∃ rest ∈ (mk parts).language, group ++ character :: rest = word := by
  simp only [mem_language_cons]
  constructor
  · rintro ⟨group, matching, _, ⟨_, rfl, rest, restMatching, rfl⟩, rfl⟩
    exact ⟨group, matching, rest, restMatching, rfl⟩
  · rintro ⟨group, matching, rest, restMatching, rfl⟩
    exact ⟨group, matching, _, ⟨[character], rfl, rest, restMatching, rfl⟩, rfl⟩

end Pattern

end LendingRules
