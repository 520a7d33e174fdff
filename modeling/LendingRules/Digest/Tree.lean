import LendingRules.Digest.Compression

namespace LendingRules

/-!
# The BLAKE3 tree

Bytes are cut into chunks of 1024. A chunk is compressed block by block; chunks
are the leaves of a binary tree whose left branches hold the largest possible
power of two of chunks, and the digest is the compression of the root.
-/

namespace Blake3

/-- The number of bytes in a full chunk. -/
def chunkLength : Nat := 1024

/-- The number of bytes in a full block. -/
def blockLength : Nat := 64

/-- The marks that tell the compressed blocks of a tree apart. -/
def chunkStart : UInt32 := 1

/-- Marks the last block of a chunk. -/
def chunkEnd : UInt32 := 2

/-- Marks the block that joins two branches. -/
def parentMark : UInt32 := 4

/-- Marks the block at the root. -/
def rootMark : UInt32 := 8

/-- Four bytes as one word, least significant byte first. -/
def wordAt (bytes : Array UInt8) (offset : Nat) : UInt32 :=
  let byte index := (bytes[offset + index]?.getD 0).toUInt32
  byte 0 ||| (byte 1 <<< 8) ||| (byte 2 <<< 16) ||| (byte 3 <<< 24)

/-- At most sixty-four bytes as a block, filled up with zeros. -/
def blockOf (bytes : List UInt8) : Block :=
  let bytes := bytes.toArray
  .ofFn fun index => wordAt bytes (4 * index)

/-- The last node of a chunk of which the bytes before are in the chaining value. -/
def chunkFrom
    (counter : Nat)
    (chaining : Chaining)
    (mark : UInt32)
    (bytes : List UInt8) :
    Node :=
  let node (length : Nat) (flags : UInt32) : Node :=
    { chaining
      block := blockOf (bytes.take blockLength)
      counter := .ofNat counter
      length := .ofNat length
      flags }
  if bytes.length ≤ blockLength then
    node bytes.length (mark ||| chunkEnd)
  else
    chunkFrom counter (node blockLength mark).compress 0 (bytes.drop blockLength)
termination_by bytes.length
decreasing_by
  simp only [blockLength, List.length_drop] at *
  omega

/-- The node of a whole chunk. -/
def chunk (counter : Nat) (bytes : List UInt8) : Node :=
  chunkFrom counter initial chunkStart bytes

/-- The node that joins two branches. -/
def parent (left right : Chaining) : Node where
  chaining := initial
  block := left ++ right
  counter := 0
  length := .ofNat blockLength
  flags := parentMark

/--
The number of bytes in the left branch: as many chunks as the largest power of
two that leaves something for the right branch.
-/
def leftLength (length : Nat) : Nat :=
  chunkLength <<< ((length - 1) / chunkLength).log2

/-- A branch over more than one chunk leaves bytes for both sides. -/
theorem leftLength_lt {length : Nat} (long : chunkLength < length) :
    leftLength length < length := by
  have chunks : (length - 1) / chunkLength ≠ 0 := by
    simp only [chunkLength] at *
    omega
  have bound := Nat.mul_le_mul_left chunkLength (Nat.log2_self_le chunks)
  have division := Nat.mul_div_le (length - 1) chunkLength
  rw [leftLength, Nat.shiftLeft_eq]
  omega

theorem leftLength_pos (length : Nat) : 0 < leftLength length := by
  rw [leftLength, Nat.shiftLeft_eq]
  exact Nat.mul_pos (by decide) (Nat.two_pow_pos _)

/-- The node over all bytes from a chunk number on. -/
def tree (counter : Nat) (bytes : List UInt8) : Node :=
  if bytes.length ≤ chunkLength then
    chunk counter bytes
  else
    let left := leftLength bytes.length
    parent
      (tree counter (bytes.take left)).compress
      (tree (counter + left / chunkLength) (bytes.drop left)).compress
termination_by bytes.length
decreasing_by
  · have shorter : leftLength bytes.length < bytes.length := leftLength_lt (by omega)
    simp only [List.length_take]
    omega
  · have positive := leftLength_pos bytes.length
    simp only [List.length_drop]
    simp only [chunkLength] at *
    omega

/-- The eight words of the digest of some bytes. -/
def hash (bytes : List UInt8) : Chaining :=
  let root := tree 0 bytes
  { root with flags := root.flags ||| rootMark }.compress

end Blake3

end LendingRules
