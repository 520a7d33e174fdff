import LendingRules.Digest.Tree

namespace LendingRules

/-!
# Digests of rule text

The digest of a text is the BLAKE3 hash of its UTF-8 bytes. It serves as the
version of the text: a reload keeps the compiled rules when the digest is the
same. Its short form is the first sixteen hexadecimal digits.
-/

/-- The digest of a text: eight words of thirty-two bits. -/
structure Digest where
  words : Vector UInt32 8
  deriving Repr, DecidableEq

namespace Digest

/-- The digest of a text. -/
def ofText (text : String) : Digest :=
  ⟨Blake3.hash text.toUTF8.data.toList⟩

/-- The thirty-two bytes, each word with its least significant byte first. -/
def bytes (digest : Digest) : List UInt8 :=
  digest.words.toList.flatMap fun (word : UInt32) =>
    [word.toUInt8, (word >>> 8).toUInt8, (word >>> 16).toUInt8,
      (word >>> 24).toUInt8]

/-- One byte as two hexadecimal digits. -/
def byteDigits (byte : UInt8) : List Char :=
  [Nat.digitChar (byte.toNat / 16), Nat.digitChar (byte.toNat % 16)]

/-- All sixty-four hexadecimal digits. -/
def hex (digest : Digest) : String :=
  String.ofList (digest.bytes.flatMap byteDigits)

/-- The first sixteen hexadecimal digits. -/
def short (digest : Digest) : String :=
  String.ofList ((digest.bytes.take 8).flatMap byteDigits)

end Digest

end LendingRules
