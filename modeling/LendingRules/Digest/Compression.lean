namespace LendingRules

/-!
# The BLAKE3 compression function

Sixteen words of state are mixed with sixteen words of message in seven rounds.
Each round mixes the columns and then the diagonals of the state, seen as a
four by four square, and between rounds the message words change places.
-/

namespace Blake3

/-- The eight words a chain starts from. -/
abbrev Chaining := Vector UInt32 8

/-- One message block: sixty-four bytes as sixteen words. -/
abbrev Block := Vector UInt32 16

/-- The initial chaining value. -/
def initial : Chaining :=
  #v[0x6A09E667, 0xBB67AE85, 0x3C6EF372, 0xA54FF53A,
    0x510E527F, 0x9B05688C, 0x1F83D9AB, 0x5BE0CD19]

/-- Where each message word comes from in the next round. -/
def schedule : Vector (Fin 16) 16 :=
  #v[2, 6, 3, 10, 7, 0, 4, 13, 1, 11, 12, 5, 9, 14, 15, 8]

/-- Rotate a word to the right by fewer than thirty-two places. -/
def rotateRight (word places : UInt32) : UInt32 :=
  (word >>> places) ||| (word <<< (32 - places))

/-- Mix two message words into four words of the state. -/
def mix
    (state : Block)
    (a b c d : Fin 16)
    (first second : UInt32) :
    Block :=
  let a₁ := state[a] + state[b] + first
  let d₁ := rotateRight (state[d] ^^^ a₁) 16
  let c₁ := state[c] + d₁
  let b₁ := rotateRight (state[b] ^^^ c₁) 12
  let a₂ := a₁ + b₁ + second
  let d₂ := rotateRight (d₁ ^^^ a₂) 8
  let c₂ := c₁ + d₂
  let b₂ := rotateRight (b₁ ^^^ c₂) 7
  (((state.set a a₂).set b b₂).set c c₂).set d d₂

/-- Mix the columns, then the diagonals. -/
def mixAll (state message : Block) : Block :=
  let state := mix state 0 4 8 12 message[0] message[1]
  let state := mix state 1 5 9 13 message[2] message[3]
  let state := mix state 2 6 10 14 message[4] message[5]
  let state := mix state 3 7 11 15 message[6] message[7]
  let state := mix state 0 5 10 15 message[8] message[9]
  let state := mix state 1 6 11 12 message[10] message[11]
  let state := mix state 2 7 8 13 message[12] message[13]
  mix state 3 4 9 14 message[14] message[15]

/-- The message words in the order of the next round. -/
def reschedule (message : Block) : Block :=
  schedule.map fun source => message[source]

/-- A number of rounds, with the message words changing places between them. -/
def rounds : Nat → Block → Block → Block
  | 0, state, _ => state
  | more + 1, state, message =>
      rounds more (mixAll state message) (reschedule message)

/-- One block to compress, with all that is mixed in beside it. -/
structure Node where
  chaining : Chaining
  block : Block
  counter : UInt64
  length : UInt32
  flags : UInt32
  deriving Repr, DecidableEq

namespace Node

/-- The state before the first round. -/
def start (node : Node) : Block :=
  #v[node.chaining[0], node.chaining[1], node.chaining[2], node.chaining[3],
    node.chaining[4], node.chaining[5], node.chaining[6], node.chaining[7],
    initial[0], initial[1], initial[2], initial[3],
    node.counter.toUInt32, (node.counter >>> 32).toUInt32,
    node.length, node.flags]

/-- The chaining value that results: both halves of the final state combined. -/
def compress (node : Node) : Chaining :=
  let state := rounds 7 node.start node.block
  #v[state[0] ^^^ state[8], state[1] ^^^ state[9],
    state[2] ^^^ state[10], state[3] ^^^ state[11],
    state[4] ^^^ state[12], state[5] ^^^ state[13],
    state[6] ^^^ state[14], state[7] ^^^ state[15]]

end Node

end Blake3

end LendingRules
