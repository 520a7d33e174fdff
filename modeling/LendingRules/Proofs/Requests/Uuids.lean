import LendingRules.Proofs.Requests.Patterns
import LendingRules.Request.Uuid

namespace LendingRules

/-!
# Acceptable ids

An id is acceptable exactly when it matches the regular expression that callers are
quoted. That does not hang on how a UUID is read: of the reader it is enough to know
which texts of thirty-six bytes it reads, and where version and variant stand in them.
-/

/--
A reader of UUIDs: what it reads, the version number of that, and whether its variant
is the standard one.
-/
structure UuidReader where
  Value : Type
  read? : String → Option Value
  version : Value → Nat
  isStandardVariant : Value → Bool

/--
Whether a text is accepted by way of a reader: it has thirty-six bytes, and what is
read has a version from one to five and the standard variant.
-/
def UuidReader.accepts (reader : UuidReader) (text : String) : Bool :=
  text.utf8ByteSize = 36 &&
    match reader.read? text with
    | some uuid =>
        1 ≤ reader.version uuid && reader.version uuid ≤ 5 && reader.isStandardVariant uuid
    | none => false

namespace Uuid

/-- The hexadecimal digits of either case. -/
def hexRanges : List CharRange :=
  [⟨'a', 'f'⟩, ⟨'A', 'F'⟩, ⟨'0', '9'⟩]

/-- The digits of the versions one to five. -/
def versionRanges : List CharRange :=
  [⟨'1', '5'⟩]

/-- The digits whose two highest bits are one and zero. -/
def variantRanges : List CharRange :=
  [.only '8', .only '9', .only 'a', .only 'b', .only 'A', .only 'B']

/-- Some hexadecimal digits. -/
def hexDigits (count : Nat) : PatternPart :=
  .oneOf hexRanges count

/-- Five groups of hexadecimal digits with hyphens between them. -/
def hyphenatedPattern : Pattern where
  parts :=
    [hexDigits 8, .plain '-', hexDigits 4, .plain '-', hexDigits 4, .plain '-', hexDigits 4,
      .plain '-', hexDigits 12]

/-- Such groups, of which the third begins with a version and the fourth with the variant. -/
def acceptedPattern : Pattern where
  parts :=
    [hexDigits 8, .plain '-', hexDigits 4, .plain '-', .oneOf versionRanges 1, hexDigits 3,
      .plain '-', .oneOf variantRanges 1, hexDigits 3, .plain '-', hexDigits 12]

/-- The expression that callers are quoted is that of the pattern. -/
theorem text_acceptedPattern : acceptedPattern.text = pattern := by
  decide

/-- The characters of a word other than hyphens. -/
def digitsOf (word : List Char) : List Char :=
  word.filter (· ≠ '-')

/-- The value of the hexadecimal digit at a place among the digits of a text. -/
def digitAt? (text : String) (place : Nat) : Option Nat :=
  (digitsOf text.toList)[place]?.bind hexValue?

end Uuid

/--
What is known of a reader. Of thirty-six bytes it reads the hyphenated form and nothing
else. The version is the thirteenth digit, and the variant is told by the two highest
bits of the seventeenth, which in the standard variant are one and zero.
-/
structure UuidReader.Documented (reader : UuidReader) : Prop where
  reads : ∀ text : String, text.utf8ByteSize = 36 →
    ((reader.read? text).isSome = true ↔ text.toList ∈ Uuid.hyphenatedPattern.language)
  version : ∀ (text : String) (uuid : reader.Value), text.utf8ByteSize = 36 →
    reader.read? text = some uuid → Uuid.digitAt? text 12 = some (reader.version uuid)
  variant : ∀ (text : String) (uuid : reader.Value), text.utf8ByteSize = 36 →
    reader.read? text = some uuid →
      ∃ digit, Uuid.digitAt? text 16 = some digit ∧
        (reader.isStandardVariant uuid = true ↔ digit / 4 = 2)

namespace Uuid

/-- Characters are ordered by their codes. -/
theorem char_le_iff {first second : Char} : first ≤ second ↔ first.toNat ≤ second.toNat :=
  UInt32.le_iff_toNat_le

/-- The values of digits, from the codes of their characters. -/
theorem hexValue?_eq_some_iff {character : Char} {value : Nat} :
    hexValue? character = some value ↔
      48 ≤ character.toNat ∧ character.toNat ≤ 57 ∧ value = character.toNat - 48 ∨
        97 ≤ character.toNat ∧ character.toNat ≤ 102 ∧ value = character.toNat - 87 ∨
          65 ≤ character.toNat ∧ character.toNat ≤ 70 ∧ value = character.toNat - 55 := by
  have code : '0'.toNat = 48 ∧ '9'.toNat = 57 ∧ 'a'.toNat = 97 ∧ 'f'.toNat = 102 ∧
      'A'.toNat = 65 ∧ 'F'.toNat = 70 := by decide
  simp only [hexValue?, char_le_iff, code]
  split
  · simp only [Option.some.injEq]
    omega
  · split
    · simp only [Option.some.injEq]
      omega
    · split
      · simp only [Option.some.injEq]
        omega
      · simp only [reduceCtorEq, false_iff]
        omega

/-- The hexadecimal digits are the characters that have a value. -/
theorem contain_hexRanges_iff {character : Char} :
    CharRange.Contain hexRanges character ↔ ∃ value, hexValue? character = some value := by
  have code : '0'.toNat = 48 ∧ '9'.toNat = 57 ∧ 'a'.toNat = 97 ∧ 'f'.toNat = 102 ∧
      'A'.toNat = 65 ∧ 'F'.toNat = 70 := by decide
  simp only [CharRange.Contain, hexRanges, List.mem_cons, List.not_mem_nil, or_false,
    exists_eq_or_imp, exists_eq_left, char_le_iff, code, hexValue?_eq_some_iff]
  constructor
  · rintro (small | capital | decimal)
    · exact ⟨character.toNat - 87, by omega⟩
    · exact ⟨character.toNat - 55, by omega⟩
    · exact ⟨character.toNat - 48, by omega⟩
  · rintro ⟨value, digit⟩
    omega

/-- The version digits are those with a value from one to five. -/
theorem contain_versionRanges_iff {character : Char} :
    CharRange.Contain versionRanges character ↔
      ∃ value, hexValue? character = some value ∧ 1 ≤ value ∧ value ≤ 5 := by
  have code : '1'.toNat = 49 ∧ '5'.toNat = 53 := by decide
  simp only [CharRange.Contain, versionRanges, List.mem_singleton, exists_eq_left, char_le_iff,
    code, hexValue?_eq_some_iff]
  constructor
  · intro within
    exact ⟨character.toNat - 48, by omega, by omega, by omega⟩
  · rintro ⟨value, digit, low, high⟩
    omega

/-- The variant digits are those whose value has one and zero for its highest bits. -/
theorem contain_variantRanges_iff {character : Char} :
    CharRange.Contain variantRanges character ↔
      ∃ value, hexValue? character = some value ∧ value / 4 = 2 := by
  have code : '8'.toNat = 56 ∧ '9'.toNat = 57 ∧ 'a'.toNat = 97 ∧ 'b'.toNat = 98 ∧
      'A'.toNat = 65 ∧ 'B'.toNat = 66 := by decide
  simp only [CharRange.Contain, variantRanges, CharRange.only, List.mem_cons, List.not_mem_nil,
    or_false, exists_eq_or_imp, exists_eq_left, char_le_iff, code, hexValue?_eq_some_iff]
  constructor
  · rintro (within | within | within | within | within | within)
    · exact ⟨8, by omega, rfl⟩
    · exact ⟨9, by omega, rfl⟩
    · exact ⟨10, by omega, rfl⟩
    · exact ⟨11, by omega, rfl⟩
    · exact ⟨10, by omega, rfl⟩
    · exact ⟨11, by omega, rfl⟩
  · rintro ⟨value, digit, bits⟩
    omega

/-- The hyphen is no digit, and every digit takes one byte. -/
theorem ne_hyphen_and_utf8Size_of_contain
    {character : Char}
    (digit : CharRange.Contain hexRanges character) :
    character ≠ '-' ∧ character.utf8Size = 1 := by
  obtain ⟨value, valued⟩ := contain_hexRanges_iff.mp digit
  rw [hexValue?_eq_some_iff] at valued
  constructor
  · rintro rfl
    have code : '-'.toNat = 45 := by decide
    omega
  · have small : character.toNat ≤ 127 := by omega
    exact Char.utf8Size_eq_one_iff.mpr (UInt32.le_iff_toNat_le.mpr small)

/-- A text of characters of one byte has as many bytes as characters. -/
theorem utf8ByteSize_ofList_of_single
    {word : List Char}
    (single : ∀ character ∈ word, character.utf8Size = 1) :
    (String.ofList word).utf8ByteSize = word.length := by
  induction word with
  | nil => rfl
  | cons first rest inductionHypothesis =>
      have split : String.ofList (first :: rest) = String.singleton first ++ String.ofList rest := by
        rw [String.singleton_eq_ofList, ← String.ofList_append, List.singleton_append]
      rw [split, String.utf8ByteSize_append, String.utf8ByteSize_singleton, single first (by simp),
        inductionHypothesis fun character member => single character (by simp [member]),
        List.length_cons, Nat.add_comm]

section

variable {parts : List PatternPart} {word : List Char} {count : Nat}

theorem mem_language_hexDigits :
    word ∈ (Pattern.mk (hexDigits count :: .plain '-' :: parts)).language ↔
      ∃ group ∈ (hexDigits count).language, ∃ rest ∈ (Pattern.mk parts).language,
        group ++ '-' :: rest = word :=
  Pattern.mem_language_separated

/-- A digit of a narrower class begins a group of hexadecimal digits. -/
theorem mem_language_leading
    {ranges : List CharRange}
    (narrower : ∀ digit,
      CharRange.Contain ranges digit → CharRange.Contain hexRanges digit) :
    word ∈ (Pattern.mk (.oneOf ranges 1 :: hexDigits count :: .plain '-' :: parts)).language ↔
      ∃ group ∈ (hexDigits (count + 1)).language,
        (∃ digit ∈ group.head?, CharRange.Contain ranges digit) ∧
          ∃ rest ∈ (Pattern.mk parts).language, group ++ '-' :: rest = word := by
  rw [Pattern.mem_language_cons]
  simp only [mem_language_hexDigits]
  constructor
  · rintro ⟨lead, leads, _, ⟨tail, follows, rest, matching, rfl⟩, rfl⟩
    obtain ⟨formed, first⟩ :=
      (PatternPart.mem_language_oneOf_succ_iff narrower).mpr ⟨lead, leads, tail, follows, rfl⟩
    exact ⟨lead ++ tail, formed, first, rest, matching, by simp⟩
  · rintro ⟨group, formed, first, rest, matching, rfl⟩
    obtain ⟨lead, leads, tail, follows, rfl⟩ :=
      (PatternPart.mem_language_oneOf_succ_iff narrower).mp ⟨formed, first⟩
    exact ⟨lead, leads, _, ⟨tail, follows, rest, matching, rfl⟩, by simp⟩

theorem contain_hexRanges_of_version
    {digit : Char}
    (version : CharRange.Contain versionRanges digit) :
    CharRange.Contain hexRanges digit := by
  obtain ⟨value, valued, -⟩ := contain_versionRanges_iff.mp version
  exact contain_hexRanges_iff.mpr ⟨value, valued⟩

theorem contain_hexRanges_of_variant
    {digit : Char}
    (variant : CharRange.Contain variantRanges digit) :
    CharRange.Contain hexRanges digit := by
  obtain ⟨value, valued, -⟩ := contain_variantRanges_iff.mp variant
  exact contain_hexRanges_iff.mpr ⟨value, valued⟩

end

/-- The characters between the hyphens of a UUID. -/
structure Groups where
  first : List Char
  second : List Char
  third : List Char
  fourth : List Char
  last : List Char

namespace Groups

variable {groups : Groups}

/-- The groups with hyphens between them. -/
def word (groups : Groups) : List Char :=
  groups.first ++ '-' :: (groups.second ++ '-' :: (groups.third ++ '-' ::
    (groups.fourth ++ '-' :: groups.last)))

/-- The groups without hyphens. -/
def digits (groups : Groups) : List Char :=
  groups.first ++ (groups.second ++ (groups.third ++ (groups.fourth ++ groups.last)))

/-- The groups have their sizes and consist of hexadecimal digits. -/
structure WellFormed (groups : Groups) : Prop where
  first : groups.first ∈ (hexDigits 8).language
  second : groups.second ∈ (hexDigits 4).language
  third : groups.third ∈ (hexDigits 4).language
  fourth : groups.fourth ∈ (hexDigits 4).language
  last : groups.last ∈ (hexDigits 12).language

/-- All characters of the groups are digits. -/
theorem WellFormed.contain_of_mem
    (formed : groups.WellFormed)
    {character : Char}
    (member : character ∈ groups.digits) :
    CharRange.Contain hexRanges character := by
  have inGroup {count : Nat} {group : List Char} (matching : group ∈ (hexDigits count).language)
      (member : character ∈ group) : CharRange.Contain hexRanges character :=
    (PatternPart.mem_language_oneOf.mp matching).2 character member
  simp only [digits, List.mem_append] at member
  rcases member with member | member | member | member | member
  · exact inGroup formed.first member
  · exact inGroup formed.second member
  · exact inGroup formed.third member
  · exact inGroup formed.fourth member
  · exact inGroup formed.last member

/-- Nothing but the hyphens is taken away from a word to find its digits. -/
theorem WellFormed.digitsOf_word (formed : groups.WellFormed) :
    digitsOf groups.word = groups.digits := by
  have kept : groups.digits.filter (· ≠ '-') = groups.digits :=
    List.filter_eq_self.mpr fun character member =>
      decide_eq_true (ne_hyphen_and_utf8Size_of_contain (formed.contain_of_mem member)).1
  simp only [digits, List.filter_append] at kept
  simpa [digitsOf, word, digits, List.filter_append, List.filter_cons] using kept

variable (formed : groups.WellFormed)
include formed

theorem WellFormed.lengths :
    groups.first.length = 8 ∧ groups.second.length = 4 ∧ groups.third.length = 4 ∧
      groups.fourth.length = 4 ∧ groups.last.length = 12 :=
  ⟨(PatternPart.mem_language_oneOf.mp formed.first).1,
    (PatternPart.mem_language_oneOf.mp formed.second).1,
    (PatternPart.mem_language_oneOf.mp formed.third).1,
    (PatternPart.mem_language_oneOf.mp formed.fourth).1,
    (PatternPart.mem_language_oneOf.mp formed.last).1⟩

/-- The thirteenth digit is the first of the third group. -/
theorem WellFormed.digits_twelve : groups.digits[12]? = groups.third.head? := by
  obtain ⟨first, second, third, -, -⟩ := formed.lengths
  rw [digits, List.getElem?_append_right (by simp [first]),
    List.getElem?_append_right (by simp [first, second]),
    List.getElem?_append_left (by simp [first, second, third]), first, second,
    List.head?_eq_getElem?]

/-- The seventeenth digit is the first of the fourth group. -/
theorem WellFormed.digits_sixteen : groups.digits[16]? = groups.fourth.head? := by
  obtain ⟨first, second, third, fourth, -⟩ := formed.lengths
  rw [digits, List.getElem?_append_right (by simp [first]),
    List.getElem?_append_right (by simp [first, second]),
    List.getElem?_append_right (by simp [first, second, third]),
    List.getElem?_append_left (by simp [first, second, third, fourth]), first, second, third,
    List.head?_eq_getElem?]

/-- Every character of the groups and every hyphen takes one byte. -/
theorem WellFormed.utf8ByteSize_word : (String.ofList groups.word).utf8ByteSize = 36 := by
  obtain ⟨first, second, third, fourth, last⟩ := formed.lengths
  have single : ∀ character ∈ groups.word, character.utf8Size = 1 := by
    intro character member
    by_cases hyphen : character = '-'
    · subst hyphen
      decide
    · have digit : character ∈ groups.digits := by
        simpa [word, digits, hyphen] using member
      exact (ne_hyphen_and_utf8Size_of_contain (formed.contain_of_mem digit)).2
  rw [utf8ByteSize_ofList_of_single single]
  simp [word, first, second, third, fourth, last]

end Groups

/-- A word is of the hyphenated form when it consists of five groups. -/
theorem mem_hyphenatedPattern_iff {word : List Char} :
    word ∈ hyphenatedPattern.language ↔
      ∃ groups : Groups, groups.WellFormed ∧ groups.word = word := by
  simp only [hyphenatedPattern, mem_language_hexDigits, Pattern.mem_language_singleton]
  constructor
  · rintro ⟨first, firstFormed, _, ⟨second, secondFormed, _, ⟨third, thirdFormed, _,
      ⟨fourth, fourthFormed, last, lastFormed, rfl⟩, rfl⟩, rfl⟩, rfl⟩
    exact ⟨⟨first, second, third, fourth, last⟩,
      ⟨firstFormed, secondFormed, thirdFormed, fourthFormed, lastFormed⟩, rfl⟩
  · rintro ⟨groups, formed, rfl⟩
    exact ⟨groups.first, formed.first, _, ⟨groups.second, formed.second, _,
      ⟨groups.third, formed.third, _, ⟨groups.fourth, formed.fourth, groups.last, formed.last,
        rfl⟩, rfl⟩, rfl⟩, rfl⟩

/-- For an accepted word the first digits of the third and the fourth group count besides. -/
theorem mem_acceptedPattern_iff_groups {word : List Char} :
    word ∈ acceptedPattern.language ↔
      ∃ groups : Groups, groups.WellFormed ∧ groups.word = word ∧
        (∃ digit ∈ groups.third.head?, CharRange.Contain versionRanges digit) ∧
          ∃ digit ∈ groups.fourth.head?, CharRange.Contain variantRanges digit := by
  simp only [acceptedPattern, mem_language_hexDigits, Pattern.mem_language_singleton,
    mem_language_leading fun _ => contain_hexRanges_of_version,
    mem_language_leading fun _ => contain_hexRanges_of_variant]
  constructor
  · rintro ⟨first, firstFormed, _, ⟨second, secondFormed, _, ⟨third, thirdFormed, version, _,
      ⟨fourth, fourthFormed, leading, last, lastFormed, rfl⟩, rfl⟩, rfl⟩, rfl⟩
    exact ⟨⟨first, second, third, fourth, last⟩,
      ⟨firstFormed, secondFormed, thirdFormed, fourthFormed, lastFormed⟩, rfl, version, leading⟩
  · rintro ⟨groups, formed, rfl, version, leading⟩
    exact ⟨groups.first, formed.first, _, ⟨groups.second, formed.second, _,
      ⟨groups.third, formed.third, version, _, ⟨groups.fourth, formed.fourth, leading,
        groups.last, formed.last, rfl⟩, rfl⟩, rfl⟩, rfl⟩

/-- Accepted texts are of the hyphenated form, with an accepted version and the variant. -/
theorem mem_acceptedPattern_iff {text : String} :
    text.toList ∈ acceptedPattern.language ↔
      text.toList ∈ hyphenatedPattern.language ∧
        (∃ version, digitAt? text 12 = some version ∧ 1 ≤ version ∧ version ≤ 5) ∧
          ∃ digit, digitAt? text 16 = some digit ∧ digit / 4 = 2 := by
  have leads {accepts : Nat → Prop} (group : List Char) :
      (∃ value, group.head?.bind hexValue? = some value ∧ accepts value) ↔
        ∃ digit ∈ group.head?, ∃ value, hexValue? digit = some value ∧ accepts value := by
    cases group <;> simp
  have places {groups : Groups} (formed : groups.WellFormed) (same : groups.word = text.toList) :
      digitAt? text 12 = groups.third.head?.bind hexValue? ∧
        digitAt? text 16 = groups.fourth.head?.bind hexValue? := by
    rw [digitAt?, digitAt?, ← same, formed.digitsOf_word, formed.digits_twelve,
      formed.digits_sixteen]
    exact ⟨rfl, rfl⟩
  simp only [mem_acceptedPattern_iff_groups, mem_hyphenatedPattern_iff,
    contain_versionRanges_iff, contain_variantRanges_iff, ← leads]
  constructor
  · rintro ⟨groups, formed, same, version, variant⟩
    obtain ⟨third, fourth⟩ := places formed same
    exact ⟨⟨groups, formed, same⟩, third ▸ version, fourth ▸ variant⟩
  · rintro ⟨⟨groups, formed, same⟩, version, variant⟩
    obtain ⟨third, fourth⟩ := places formed same
    exact ⟨groups, formed, same, third ▸ version, fourth ▸ variant⟩

/-- Texts of the hyphenated form have thirty-six bytes. -/
theorem utf8ByteSize_of_mem_hyphenatedPattern
    {text : String}
    (hyphenated : text.toList ∈ hyphenatedPattern.language) :
    text.utf8ByteSize = 36 := by
  obtain ⟨groups, formed, same⟩ := mem_hyphenatedPattern_iff.mp hyphenated
  rw [← formed.utf8ByteSize_word, same, String.ofList_toList]

/-- Characters that all have a value have a list of values. -/
theorem exists_map_hexValue?
    {word : List Char}
    (digits : ∀ character ∈ word, CharRange.Contain hexRanges character) :
    ∃ values : List Nat, word.map hexValue? = values.map some := by
  induction word with
  | nil => exact ⟨[], rfl⟩
  | cons first rest inductionHypothesis =>
      obtain ⟨value, valued⟩ := contain_hexRanges_iff.mp (digits first (by simp))
      obtain ⟨values, others⟩ :=
        inductionHypothesis fun character member => digits character (by simp [member])
      exact ⟨value :: values, by simp [valued, others]⟩

/-- What is read as a group is at the beginning of the word, and gives its values. -/
theorem readGroup?_eq_some_iff
    {size : Nat}
    {word rest : List Char}
    {values : List Nat} :
    readGroup? size word = some (values, rest) ↔
      ∃ group ∈ (hexDigits size).language,
        group ++ rest = word ∧ group.map hexValue? = values.map some := by
  simp only [hexDigits, PatternPart.mem_language_oneOf]
  induction size generalizing word rest values with
  | zero =>
      simp only [readGroup?, Option.some.injEq, Prod.mk.injEq, List.length_eq_zero_iff]
      constructor
      · rintro ⟨rfl, rfl⟩
        exact ⟨[], ⟨rfl, by simp⟩, rfl, rfl⟩
      · rintro ⟨_, ⟨rfl, -⟩, rfl, valued⟩
        exact ⟨(List.map_eq_nil_iff.mp valued.symm).symm, rfl⟩
  | succ size inductionHypothesis =>
      cases word with
      | nil =>
          simp only [readGroup?, reduceCtorEq, false_iff]
          rintro ⟨group, ⟨length, -⟩, empty, -⟩
          simp [(List.append_eq_nil_iff.mp empty).1] at length
      | cons first others =>
          simp only [readGroup?, bind, Option.bind_eq_some_iff, pure, Option.some.injEq,
            Prod.mk.injEq, Prod.exists, inductionHypothesis]
          constructor
          · rintro ⟨value, valued, tailValues, _, ⟨tail, ⟨length, digits⟩, rfl, tailValued⟩, rfl,
              rfl⟩
            refine ⟨first :: tail, ⟨by simp [length], ?_⟩, rfl, by simp [valued, tailValued]⟩
            simpa using ⟨contain_hexRanges_iff.mpr ⟨value, valued⟩, digits⟩
          · rintro ⟨group, ⟨length, digits⟩, shape, valued⟩
            obtain ⟨_, tail, rfl⟩ := List.exists_cons_of_length_eq_add_one length
            obtain ⟨rfl, rfl⟩ := List.cons.inj shape
            cases values with
            | nil => cases valued
            | cons value tailValues =>
                simp only [List.map_cons, List.cons.injEq] at valued
                exact ⟨value, valued.1, tailValues, rest,
                  ⟨tail, ⟨by simpa using length, fun character member =>
                    digits character (List.mem_cons_of_mem _ member)⟩, rfl, valued.2⟩, rfl, rfl⟩

/-- Groups are read one after the other, each behind a hyphen. -/
theorem readGroups?_cons_eq_some_iff
    {size : Nat}
    {sizes : List Nat}
    {word : List Char}
    {values : List Nat} :
    readGroups? (size :: sizes) word = some values ↔
      ∃ group ∈ (hexDigits size).language, ∃ rest own others,
        '-' :: (group ++ rest) = word ∧ group.map hexValue? = own.map some ∧
          readGroups? sizes rest = some others ∧ own ++ others = values := by
  constructor
  · intro read
    unfold readGroups? at read
    split at read
    · rename_i none
      cases none
    · rename_i same
      cases same
      simp only [bind, Option.bind_eq_some_iff, pure, Option.some.injEq, Prod.exists] at read
      obtain ⟨own, behind, grouped, others, readBehind, together⟩ := read
      obtain ⟨group, formed, rfl, valued⟩ := readGroup?_eq_some_iff.mp grouped
      exact ⟨group, formed, behind, own, others, rfl, valued, readBehind, together⟩
    · cases read
  · rintro ⟨group, formed, rest, own, others, rfl, valued, read, rfl⟩
    have grouped : readGroup? size (group ++ rest) = some (own, rest) :=
      readGroup?_eq_some_iff.mpr ⟨group, formed, rfl, valued⟩
    simp [readGroups?, grouped, read]

/-- Nothing may follow the last group. -/
theorem readGroups?_nil_eq_some_iff {word : List Char} {values : List Nat} :
    readGroups? [] word = some values ↔ word = [] ∧ values = [] := by
  cases word <;> simp [readGroups?, eq_comm]

/-- A text that is read consists of five groups, and their digits have the values read. -/
theorem ofText?_eq_some_iff {text : String} {uuid : Uuid} :
    ofText? text = some uuid ↔
      ∃ groups : Groups, groups.WellFormed ∧ groups.word = text.toList ∧
        groups.digits.map hexValue? = uuid.digits.map some := by
  simp only [ofText?, bind, Option.bind_eq_some_iff, pure, Option.some.injEq, Prod.exists,
    readGroup?_eq_some_iff, readGroups?_cons_eq_some_iff, readGroups?_nil_eq_some_iff]
  constructor
  · rintro ⟨firstValues, _, ⟨first, firstFormed, shape, firstValued⟩, _,
      ⟨second, secondFormed, _, secondValues, _, rfl, secondValued,
        ⟨third, thirdFormed, _, thirdValues, _, rfl, thirdValued,
          ⟨fourth, fourthFormed, _, fourthValues, _, rfl, fourthValued,
            ⟨last, lastFormed, _, lastValues, _, rfl, lastValued, ⟨rfl, rfl⟩, rfl⟩, rfl⟩, rfl⟩,
        rfl⟩, rfl⟩
    refine ⟨⟨first, second, third, fourth, last⟩,
      ⟨firstFormed, secondFormed, thirdFormed, fourthFormed, lastFormed⟩, ?_, ?_⟩
    · simpa [Groups.word] using shape
    · simp [Groups.digits, firstValued, secondValued, thirdValued, fourthValued, lastValued]
  · rintro ⟨groups, formed, shape, valued⟩
    have values {count : Nat} {group : List Char} (matching : group ∈ (hexDigits count).language) :
        ∃ values : List Nat, group.map hexValue? = values.map some :=
      exists_map_hexValue? (PatternPart.mem_language_oneOf.mp matching).2
    obtain ⟨firstValues, firstValued⟩ := values formed.first
    obtain ⟨secondValues, secondValued⟩ := values formed.second
    obtain ⟨thirdValues, thirdValued⟩ := values formed.third
    obtain ⟨fourthValues, fourthValued⟩ := values formed.fourth
    obtain ⟨lastValues, lastValued⟩ := values formed.last
    have together :
        firstValues ++ (secondValues ++ (thirdValues ++ (fourthValues ++ (lastValues ++ [])))) =
          uuid.digits := by
      refine List.map_injective_iff.mpr (Option.some_injective Nat) ?_
      simp [← valued, Groups.digits, firstValued, secondValued, thirdValued, fourthValued,
        lastValued]
    exact ⟨firstValues, _, ⟨groups.first, formed.first, shape, firstValued⟩, _,
      ⟨groups.second, formed.second, _, secondValues, _, rfl, secondValued,
        ⟨groups.third, formed.third, _, thirdValues, _, rfl, thirdValued,
          ⟨groups.fourth, formed.fourth, _, fourthValues, _, rfl, fourthValued,
            ⟨groups.last, formed.last, [], lastValues, [], by simp, lastValued, ⟨rfl, rfl⟩, rfl⟩,
            rfl⟩, rfl⟩, rfl⟩, by rw [together]⟩

/-- The digits of what is read stand at their places in the text. -/
theorem digitAt?_of_ofText?
    {text : String}
    {uuid : Uuid}
    {place : Nat}
    (read : ofText? text = some uuid)
    (inside : place < 32) :
    digitAt? text place = some (uuid.digits[place]?.getD 0) := by
  obtain ⟨groups, formed, same, valued⟩ := ofText?_eq_some_iff.mp read
  obtain ⟨first, second, third, fourth, last⟩ := formed.lengths
  have size : groups.digits.length = 32 := by
    simp [Groups.digits, first, second, third, fourth, last]
  have atPlace := congrArg (·[place]?) valued
  have found : groups.digits[place]? = some groups.digits[place] :=
    List.getElem?_eq_getElem (by omega)
  simp only [List.getElem?_map, found, Option.map_some] at atPlace
  rw [digitAt?, ← same, formed.digitsOf_word, found, Option.bind_some]
  cases read : uuid.digits[place]? with
  | none => simp [read] at atPlace
  | some value => simpa [read] using atPlace

/-- Exactly the texts of the hyphenated form are read. -/
theorem isSome_ofText?_iff {text : String} :
    (ofText? text).isSome = true ↔ text.toList ∈ hyphenatedPattern.language := by
  rw [Option.isSome_iff_exists, mem_hyphenatedPattern_iff]
  constructor
  · rintro ⟨uuid, read⟩
    obtain ⟨groups, formed, same, -⟩ := ofText?_eq_some_iff.mp read
    exact ⟨groups, formed, same⟩
  · rintro ⟨groups, formed, same⟩
    obtain ⟨values, valued⟩ := exists_map_hexValue? fun _ member => formed.contain_of_mem member
    exact ⟨⟨values⟩, ofText?_eq_some_iff.mpr ⟨groups, formed, same, valued⟩⟩

/-- The reader that is in use. -/
def reader : UuidReader where
  Value := Uuid
  read? := ofText?
  version := version
  isStandardVariant := isStandardVariant

/-- The reader in use has all that is known of a reader. -/
theorem documented_reader : reader.Documented where
  reads _ _ := isSome_ofText?_iff
  version _ _ _ read := digitAt?_of_ofText? read (by decide)
  variant _ _ _ read :=
    ⟨_, digitAt?_of_ofText? read (by decide), decide_eq_true_iff⟩

end Uuid

namespace UuidReader.Documented

variable {reader : UuidReader} {text : String}

/-- By way of a reader the texts that match the quoted expression are accepted. -/
theorem accepts_iff (documented : reader.Documented) :
    reader.accepts text = true ↔ text.toList ∈ Uuid.acceptedPattern.language := by
  rw [Uuid.mem_acceptedPattern_iff]
  constructor
  · intro accepted
    simp only [accepts, Bool.and_eq_true, decide_eq_true_eq] at accepted
    obtain ⟨size, checked⟩ := accepted
    cases read : reader.read? text with
    | none => simp [read] at checked
    | some uuid =>
        simp only [read, Bool.and_eq_true, decide_eq_true_eq] at checked
        obtain ⟨digit, found, standard⟩ := documented.variant text uuid size read
        exact ⟨(documented.reads text size).mp (by simp [read]),
          ⟨_, documented.version text uuid size read, checked.1⟩,
          digit, found, standard.mp checked.2⟩
  · rintro ⟨hyphenated, ⟨version, foundVersion, low, high⟩, digit, found, bits⟩
    have size := Uuid.utf8ByteSize_of_mem_hyphenatedPattern hyphenated
    obtain ⟨uuid, read⟩ := Option.isSome_iff_exists.mp ((documented.reads text size).mpr hyphenated)
    have sameVersion := documented.version text uuid size read
    obtain ⟨same, sameFound, standard⟩ := documented.variant text uuid size read
    cases foundVersion.symm.trans sameVersion
    cases found.symm.trans sameFound
    simp [accepts, size, read, low, high, standard.mpr bits]

end UuidReader.Documented

/-- The reader in use reads nothing but texts of thirty-six bytes. -/
theorem Uuid.accepts_reader (text : String) : Uuid.reader.accepts text = Uuid.isAccepted text := by
  cases read : Uuid.ofText? text with
  | none =>
      have unread : Uuid.reader.read? text = none := read
      rw [UuidReader.accepts, unread, Bool.and_false, isAccepted, read]
  | some uuid =>
      have read' : Uuid.reader.read? text = some uuid := read
      have size : text.utf8ByteSize = 36 :=
        utf8ByteSize_of_mem_hyphenatedPattern
          (isSome_ofText?_iff.mp (by rw [read, Option.isSome_some]))
      rw [UuidReader.accepts, read', decide_eq_true size, Bool.true_and, isAccepted, read]
      rfl

/-- The accepted texts are those that match the quoted expression. -/
theorem Uuid.isAccepted_iff {text : String} :
    Uuid.isAccepted text = true ↔ text.toList ∈ acceptedPattern.language := by
  rw [← accepts_reader, documented_reader.accepts_iff]

/-- Whatever reader is used, the same texts are accepted. -/
theorem UuidReader.Documented.accepts_eq_isAccepted
    {reader : UuidReader}
    (documented : reader.Documented)
    (text : String) :
    reader.accepts text = Uuid.isAccepted text := by
  rw [Bool.eq_iff_iff, documented.accepts_iff, Uuid.isAccepted_iff]

end LendingRules
